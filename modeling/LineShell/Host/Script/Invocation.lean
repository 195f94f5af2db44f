import LineShell.Host.Script.Runner.Compound

/-! Starting a script: where its text comes from, its options, and its first variables. -/
namespace LineShell.Script

/-- The directory that a script believes to be in: the one named by `PWD` where that leads to the
real one, and else the real one without links. -/
def workingDirectory (files : FileSystem) (p : Process) : Text :=
  let real := p.directory.path.octets
  match p.value? "PWD".toList with
  | some path =>
    if path.head? = some '/' ∧ files.directory? [] ⟨path⟩ = some p.directory then path
    else real
  | none => real

def firstVariables (p : Process) : List (Text × Variable) :=
  [("PATH", String.ofList Runner.defaultPath), ("IFS", " \t\n"), ("PS1", "$ "), ("PS2", "> "),
    ("PS4", "+ "), ("OPTIND", "1"), ("PPID", toString p.parent)].map
      fun (name, value) => (name.toList, ⟨some value.toList, false, false⟩)

/-- Takes over the variables that a script is given. Names that no script could write are left out,
and the separators of fields are its own. -/
def inherit (m : Machine) (environment : List Text) : Machine :=
  environment.foldl (fun m t =>
    match Text.cut? '=' t with
    | some (name, value) =>
      if name = "IFS".toList ∨ name = "OPTIND".toList then
        m.put name ⟨m.value? name, true, false⟩
      else if isName name then m.put name ⟨some value, true, false⟩
      else m
    | none => m) m

def machine (files : FileSystem) (p : Process) : Machine :=
  let directory := workingDirectory files p
  let m : Machine :=
    { name := p.name, mainProcess := p.id, directory, known := firstVariables p }
  (inherit m p.environment).put "PWD".toList ⟨some directory, true, false⟩

/-- Reads the options in front of the operands, and says whether the first operand is the script
itself and whether the input is. -/
def readInvocation : Nat → Bool → Bool → List Text → Step (Bool × Bool × List Text)
  | 0, command, input, arguments => return (command, input, arguments)
  | n + 1, command, input, arguments => do
    match arguments with
    | ['-', '-'] :: rest | ['-'] :: rest => return (command, input, rest)
    | ('-' :: c :: letters) :: rest =>
      let continued := if letters = [] then rest else ('-' :: letters) :: rest
      if c = 'c' then readInvocation n true input continued
      else if c = 's' then readInvocation n command true continued
      else if c = 'l' ∨ c = 'i' then readInvocation n command input continued
      else
        let (rest, _) ← Builtin.setOptions 1 (['-', c] :: continued)
        readInvocation n command input rest
    | ('+' :: _ :: _) :: _ =>
      let (rest, _) ← Builtin.setOptions 1 arguments
      readInvocation n command input rest
    | _ => return (command, input, arguments)

def scriptDescriptor : Nat := 10

def Runner.runFileLines (r : Runner) (name : Text) : Step Unit := do
  match ← Step.perform (.openForReading name) with
  | .ok opened =>
    let descriptor ← Step.perform do
      let file ← Activity.fileOf opened
      Activity.close opened
      Activity.attach scriptDescriptor file
      return scriptDescriptor
    modify ({ · with name })
    r.runInput descriptor Runner.loopLimit { text := [], shown := true }
  | .error cause => openFailure name cause

def Runner.runStandardInput (r : Runner) : Step Unit := do
  Builtin.turn true 's'
  r.runInput 0 Runner.loopLimit { text := [], shown := true }

def invoke (r : Runner) : Step Unit := do
  let p ← Step.self
  modify ({ · with line := 0 })
  let (command, input, operands) ← readInvocation 1000 false false p.arguments.tail
  match command, operands with
  | true, [] => Step.fail "-c requires an argument".toList
  | true, text :: rest =>
    modify fun m => { m with name := rest.headD p.name, parameters := rest.tail }
    r.runText { last := true } text
  | false, name :: rest =>
    if input then
      modify ({ · with parameters := operands })
      r.runStandardInput
    else
      modify ({ · with parameters := rest })
      r.runFileLines name
  | false, [] => r.runStandardInput

def run (start : Start) : Activity Ending := do
  let r := runner start
  let (_, m) ← (invoke r).run (machine (← Activity.files) (← Activity.self))
  r.finish m

end LineShell.Script
