import LineShell.Host.Utility.Records.Runner

/-! `awk`: what a report says is done with the records of some files. -/
namespace LineShell.Records

open Utility

namespace Work

/-- Carries something out as far as an exit, and says whether the report goes on behind that. -/
def untilExit (work : Work Unit) : Work Bool := do
  try
    work
    return true
  catch jump => return !(jump matches .stop)

/-- Whether a rule is meant for the record at hand. -/
def applies (number : Nat) (c : Condition) : Work Bool := do
  let test (e : Expr) : Work Bool := return (← evaluate Activity.readLimit e).isTrue
  let setBegun (b : Bool) : Work Unit :=
    modify fun m => { m with begun := m.begun.setIfInBounds number b }
  match c with
  | .always => return true
  | .when e => test e
  | .between first last =>
    let isBegun := ((← get).begun[number]?).getD false
    if !isBegun then
      if !(← test first) then return false
    setBegun !(← test last)
    return true

/-- Carries out what the rules say of the record at hand. -/
def followRules : Nat → List Rule → Work Unit
  | _, [] => return ()
  | number, rule :: rest => do
    if ← applies number rule.condition then
      execute Activity.readLimit (rule.action.getD (.print [] none))
    followRules (number + 1) rest

def followRecords (rules : List Rule) : Nat → Work Unit
  | 0 => return ()
  | fuel + 1 => do
    match ← nextRecord Activity.readLimit with
    | none => return ()
    | some t =>
      setRecord (.given t)
      try
        followRules 0 rules
      catch jump =>
        match jump with
        | .nextRecord => pure ()
        | .nextFile => leaveCourse
        | jump => throw jump
      followRecords rules fuel

def run (assignments : List (Text × Text)) : Work Unit := do
  let report := (← read).report
  let all (parts : List Statement) : Work Unit := executeAll Activity.readLimit parts
  let goesOn ← untilExit do
    for (name, t) in assignments do assignArgument name t
    all report.atStart
    if report.rules ≠ [] ∨ report.atEnd ≠ [] then followRecords report.rules Activity.readLimit
  if goesOn then
    let _ ← untilExit (all report.atEnd)
  closeOutputs

end Work

def lastName (t : Text) : Text := ((splitWhere (· == '/') t).getLast?).getD []

def usage : List String :=
  [" [Options] [Program] [file ...]", "", "Program:",
    "    The -f option value is the name of a file containing program text.",
    "    If no -f option is given, a \"--\" ends option processing; the following",
    "    parameters are the program text.", "", "Options:",
    "    -f program-file  Program  text is read from file instead of from the",
    "                     command-line.  Multiple -f options are accepted.",
    "    -F value         sets the field separator, FS, to value.",
    "    -v var=value     assigns value to program variable var.",
    "    --               unambiguous end of options.", "",
    "    Implementation-specific options are prefixed with \"-W\".  They can be",
    "    abbreviated:", "",
    "    -W version       show version information and exit.",
    "    -W dump          show assembler-like listing of program and exit.",
    "    -W help          show this message and exit.",
    "    -W interactive   set unbuffered output, line-buffered input.",
    "    -W exec file     use file as program as well as last option.",
    "    -W random=number set initial random seed.",
    "    -W sprintf=number adjust size of sprintf buffer.",
    "    -W posix_space   do not consider \"\\n\" a space.",
    "    -W usage         show this message and exit."]

structure Order where
  separator : Option Text := none
  assignments : List (Text × Text) := []
  /-- The files that the report is in. -/
  files : List Text := []
  operands : List Text := []

end Records

namespace Utility

open Records

/-- Does what a report says with the records of some files. -/
def processRecords (start : Script.Start) : Tool Nat := do
  let p ← Tool.process
  let name := lastName p.name
  let refuse {α : Type} (message : Text) : Tool α := do
    let _ ← Tool.act (.write 2 (name ++ ": ".toList ++ message.line))
    Tool.stop 2
  let unknown {α : Type} (t : Text) : Tool α := refuse ("not an option: ".toList ++ t)
  let rec options : Nat → List Text → Order → Tool Order
    | 0, _, order => return order
    | fuel + 1, arguments, order => do
      match arguments with
      | ['-', '-'] :: rest => return { order with operands := rest }
      | ('-' :: c :: more) :: rest =>
        let known := "WFvf".toList.contains c
        if !known then unknown ('-' :: c :: more)
        let (value, rest) ← match more, rest with
          | [], value :: rest => pure (value, rest)
          | [], [] => refuse ("option ".toList ++ ['-', c] ++ " lacks argument".toList)
          | value, rest => pure (value, rest)
        match c with
        | 'F' =>
          let t := Read.unescape (value.length + 1) value
          options fuel rest { order with separator := some t }
        | 'f' => options fuel rest { order with files := order.files ++ [value] }
        | 'v' =>
          match Text.cut? '=' value with
          | some (key, t) =>
            if !Work.isName key then refuse ("improper assignment: -v ".toList ++ value)
            options fuel rest { order with assignments := order.assignments ++ [(key, t)] }
          | none => refuse ("improper assignment: -v ".toList ++ value)
        | _ =>
          let _ ← Tool.act (.write 2 (name ++ ": vacuous option: -W \"".toList ++ value ++ "\"\n".toList))
          options fuel rest order
      | operands => return { order with operands }
  if p.arguments.length < 2 then
    let lines := usage.map fun t => Text.line t.toList
    let _ ← Tool.act (.write 2 ("Usage: ".toList ++ name ++ lines.flatten))
    Tool.stop 0
  let order ← options (p.arguments.length + 1) p.arguments.tail {}
  let texts ← order.files.mapM fun file => do
    match ← Tool.content file with
    | .ok t => return (file, t)
    | .error cause => refuse ("cannot open ".toList ++ file ++ " (".toList ++ reason cause ++ [')'])
  let (first, later, operands) ← match texts, order.operands with
    | (file, t) :: later, operands => pure ((some file, t), later, operands)
    | [], t :: operands => if t = ['-'] then Tool.stop 0 else pure ((none, t), [], operands)
    | [], [] => Tool.stop 0
  match readReport (order.assignments.map (·.1)) first later with
  | .error messages =>
    for message in messages do
      let _ ← Tool.act (.write 2 (name ++ ": ".toList ++ message.line))
    return 2
  | .ok none => return 0
  | .ok (some report) =>
    let given (t : Text) : Value := .given t
    let arguments := (name :: operands).map given
    let environment := p.environment.filterMap (Text.cut? '=')
    let special (s : Special) : Value := match s with
      | .fieldSeparator => .text (order.separator.getD [' '])
      | .recordSeparator | .outputEnd => .text ['\n']
      | .outputSeparator => .text [' ']
      | .keySeparator => .text ['\x1c']
      | .numberFormat | .printFormat => .text "%.6g".toList
      | .matchLength => .ofInt (-1)
      | .recordNumber | .fileRecordNumber | .matchStart => .ofInt 0
      | .argumentCount => .ofInt arguments.length
      | .fileName => .text []
      | .arguments | .environment => .unset
    let values := Special.all.map special ++
      List.replicate (report.names.size - Special.all.length) .unset
    let arrays := Array.replicate report.names.size ({} : Associations)
    let listed := arguments.zipIdx.foldl (fun a (v, i) => a.set (.whole i) v) ({} : Associations)
    let named := environment.foldl (fun a (name, t) => a.set (.name name) (given t))
      ({} : Associations)
    let arrays := (arrays.setIfInBounds Special.arguments.number listed).setIfInBounds
      Special.environment.number named
    let separator ← match order.separator with
      | none => pure Separator.blanks
      | some t =>
        match Separator.ofText t with
        | .ok separator => pure separator
        | .error fault =>
          refuse ("regular expression compile failed (".toList ++ fault.message ++ ")\n".toList ++ t)
    let seed := Value.ofInt ((← Tool.view).files.now / 1000000000 : Nat)
    let machine : Machine :=
      { values := values.toArray, arrays, separator, record := { separator }
        begun := Array.replicate report.rules.length false, seed
        noise := Work.noiseOf (seed.toNumber.toIntWithin 0 (Int.pow 2 31)).toNat }
    let work := Work.run order.assignments { report, start, name }
    let (_, machine) ← StateT.run (ExceptT.run work) machine
    return machine.status

end Utility
end LineShell
