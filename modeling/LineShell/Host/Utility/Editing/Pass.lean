import LineShell.Host.Utility.Concatenate
import LineShell.Host.Utility.Editing.Reader
import LineShell.Host.Utility.Editing.Replacement
import LineShell.Host.Utility.ShellCommand

/-! A script of a stream editor at work on the lines of some files. -/
namespace LineShell.Editing

open Utility

structure Manner where
  script : Script
  start : Script.Start
  /-- Lines are printed only if that is asked for. -/
  quiet : Bool := false
  /-- Every file has its own first and last line. -/
  separate : Bool := false
  /-- Files are changed, and kept under names with this suffix. -/
  suffix : Option Text := none
  /-- The sign that ends lines. -/
  mark : Char := '\n'
  /-- The width of lines that are shown. -/
  width : Nat := 70
  /-- How many arguments the script is made of. -/
  arguments : Nat := 1

/-- Whether the lines are those of a range. -/
inductive Stretch
  | idle
  /-- They are, at most as far as this line. -/
  | open (last : Option Nat)
  | closed
  deriving DecidableEq

/-- What is printed at the end of a cycle. -/
inductive Addition
  | text (t : Text)
  | file (name : Text)

/-- Where a line goes to; without a name to the output. -/
abbrev Target := Option Text

/-- What a script knows between two commands. -/
structure Pass where
  /-- The line at hand, and whether it has its end. -/
  line : Text := []
  ends : Bool := true
  kept : Text := []
  keptEnds : Bool := true
  number : Nat := 0
  /-- Something has been replaced since a line was read. -/
  changed : Bool := false
  /-- The expression that was matched last. -/
  last : Option Regex := none
  additions : List Addition := []
  stretches : Array Stretch := #[]
  /-- The input, what it is called, and those that follow. -/
  feed : Option Feed := none
  name : Text := ['-']
  names : List Text := []
  /-- Where the end of a line is still missing. -/
  incomplete : List Target := []
  /-- The files that are written to. -/
  outputs : List (Text × Nat) := []
  /-- The files that are read line by line. -/
  readers : List (Text × Option Feed) := []
  /-- What has been written in place of the file, the last text first. -/
  edited : List Text := []
  /-- The status of inputs that could not be read. -/
  status : Nat := 0

abbrev Edit := ReaderT Manner (StateT Pass Tool)

namespace Edit

def perform {α : Type} (tool : Tool α) : Edit α := fun _ s => do return (← tool, s)

def panic {α : Type} (message : Text) : Edit α := perform (Tool.refuse 4 message)

/-! ### Output -/

def emit (target : Target) (t : Text) : Edit Unit := do
  match target with
  | none =>
    if (← read).suffix.isSome then modify fun s => { s with edited := t :: s.edited }
    else perform (Tool.print t)
  | some name =>
    if name = "/dev/stdout".toList then perform (Tool.print t)
    else if name = "/dev/stderr".toList then
      perform Tool.flush
      let _ ← perform (Tool.act (.write 2 t))
    else
      match (← get).outputs.lookup name with
      | none => return ()
      | some descriptor =>
        match ← perform (Tool.act (.write descriptor t)) with
        | none => return ()
        | some errno =>
          panic ("couldn't write ".toList ++ Text.decimal t.length ++ " items to ".toList ++ name ++
            ": ".toList ++ errno.text)

/-- Ends the last line of an output if it has no end yet. -/
def complete (target : Target) : Edit Unit := do
  if (← get).incomplete.contains target then
    modify fun s => { s with incomplete := s.incomplete.filter (· != target) }
    emit target [(← read).mark]

def putLine (target : Target) (t : Text) (ends : Bool) : Edit Unit := do
  complete target
  let mark := (← read).mark
  emit target (if ends then t ++ [mark] else t)
  if !ends then modify fun s => { s with incomplete := target :: s.incomplete }

def putCurrent (target : Target) : Edit Unit := do
  let s ← get
  putLine target s.line s.ends

/-- Prints the texts and files that were to come at the end of a cycle. -/
def putAdditions : Edit Unit := do
  for addition in (← get).additions do
    complete none
    match addition with
    | .text t => emit none t
    | .file name =>
      let content ← perform (Tool.act (.content name))
      emit none (content.toOption.getD [])
  modify ({ · with additions := [] })

/-! ### Input -/

/-- The state of every range at the first line: one from line 0 on is open already. -/
def firstStretches (script : Script) : Array Stretch :=
  script.commands.map fun c =>
    match c.start with
    | some (.line 0) => .open none
    | _ => .idle

/-- Puts what has been written in the place of the file that has been read. -/
def replaceFile (suffix : Text) : Edit Unit := do
  let s ← get
  let t := s.edited.reverse.flatten
  modify ({ · with edited := [], incomplete := s.incomplete.filter (·.isSome) })
  let v ← perform Tool.view
  match v.entry s.name with
  | .ok (.found location node) =>
    let mode := v.files.mode ((v.node? s.name).getD node)
    if suffix ≠ [] then
      let last := lastPart s.name
      let new := if suffix.contains '*' then suffix.flatMap fun c => if c = '*' then last else [c]
        else last ++ suffix
      let new := if new.contains '/' then new
        else s.name.take (s.name.length - last.length) ++ new
      match v.entry new with
      | .error cause => panic ("cannot rename ".toList ++ s.name ++ ": ".toList ++ reason cause)
      | .ok (.found there _) | .ok (.vacant there) =>
        let _ ← perform (Tool.change fun files _ => .ok ((files.erase location).put there node))
    let _ ← perform (Tool.change fun files _ => .ok (files.putFile location mode (Text.toBytes t)).2)
  | _ => return ()
where
  /-- What stands behind the last slash. -/
  lastPart (t : Text) : Text := (splitWhere (· == '/') t).getLast?.getD []

def closeInput : Edit Unit := do
  match (← get).feed with
  | none => return ()
  | some f =>
    perform f.close
    modify ({ · with feed := none })
    match (← read).suffix with
    | some suffix => replaceFile suffix
    | none => return ()

def openInput : Edit Unit := do
  let m ← read
  match (← get).names with
  | [] => return ()
  | name :: names =>
    modify ({ · with names })
    let isFile := ((← perform Tool.view).node? name).all Node.isFile
    if m.suffix.isSome ∧ !isFile then
      panic ("couldn't edit ".toList ++ name ++ ": not a regular file".toList)
    match ← perform (if m.suffix.isSome then Feed.ofFile name else Feed.ofName name) with
    | .error cause =>
      perform (Tool.complain ("can't read ".toList ++ name ++ ": ".toList ++ reason cause))
      modify ({ · with status := 2 })
    | .ok feed =>
      modify ({ · with feed, name })
      if m.separate then modify ({ · with number := 0, stretches := firstStretches m.script })

/-- Reads until something is left to be used or the input has ended. -/
def fill (f : Feed) : Edit Feed := do
  if f.buffer ≠ [] ∨ f.ended.isSome then return f
  else
    let f ← perform f.more
    match f.failure? with
    | some errno => panic ("read error on ".toList ++ (← get).name ++ ": ".toList ++ errno.text)
    | none => return f

/-- Whether another line can be read; with separate files it has to be one of the same file. -/
def hasMore : Nat → Edit Bool
  | 0 => return false
  | n + 1 => do
    match (← get).feed with
    | some f =>
      let f ← fill f
      modify ({ · with feed := some f })
      if f.buffer ≠ [] then return true
      else if (← read).separate then return false
      else
        closeInput
        hasMore n
    | none =>
      if (← get).names = [] then return false
      openInput
      hasMore n

def isLast : Edit Bool := return !(← hasMore (2 * (← get).names.length + 3))

def takeLine : Nat → Edit (Option (Text × Bool))
  | 0 => return none
  | n + 1 => do
    match (← get).feed with
    | some f =>
      let f ← fill f
      let mark := (← read).mark
      match ← perform (Feed.piece mark Activity.readLimit f) with
      | (some t, f) =>
        modify ({ · with feed := some f })
        let ends := t.getLast? == some mark
        return some (if ends then t.dropLast else t, ends)
      | (none, _) =>
        closeInput
        takeLine n
    | none =>
      if (← get).names = [] then return none
      openInput
      takeLine n

/-- Reads the next line, behind what was to come before it. -/
def nextLine : Edit (Option (Text × Bool)) := do
  putAdditions
  match ← takeLine (2 * (← get).names.length + 3) with
  | none => return none
  | some line =>
    modify fun s => { s with number := s.number + 1, changed := false }
    return some line

/-! ### Choosing lines -/

def resolve (e : Expression) : Edit Regex := do
  match e <|> (← get).last with
  | some e =>
    modify ({ · with last := some e })
    return e
  | none =>
    perform (Tool.refuse 1 ("-e expression #".toList ++ Text.decimal (← read).arguments ++
      ", char 0: no previous regular expression".toList))

/-- Whether an address is that of the line at hand. -/
def fits : Address → Edit Bool
  | .line n => return (← get).number == n
  | .every first step => do
    let n := (← get).number
    return first ≤ n && (n - first) % step == 0
  | .last => isLast
  | .matching e => do return (← resolve e).isIn (← get).line

def setStretch (index : Nat) (s : Stretch) : Edit Unit :=
  modify fun p => { p with stretches := p.stretches.setIfInBounds index s }

/-- Whether a range begins with the line at hand, and if so how it goes on. A range that begins with
the line of a number does that once. -/
def begins (index : Nat) (start : Address) (stop : Stop) (closed : Bool) : Edit Bool := do
  let n := (← get).number
  let starts ← match start with
    | .line first => pure (!closed && first ≤ n)
    | start => fits start
  if !starts then return false
  let (isFirst, ended) : Bool × Stretch := match start with
    | .line first => (n == first, .closed)
    | _ => (true, .idle)
  match stop with
  | .address (.line last) =>
    if last ≤ n then
      setStretch index ended
      return isFirst || n ≤ last
    else setStretch index (.open (some last))
  | .address _ => setStretch index (.open none)
  | .after count =>
    setStretch index (if count = 0 then ended else .open (some (n + count)))
  | .multiple m =>
    setStretch index (if m = 0 then ended else .open (some (n + (m - n % m))))
  return true

def concerns (index : Nat) (c : Command) : Edit Bool := do
  let found ← match c.start, c.stop with
    | none, _ => pure true
    | some start, none => fits start
    | some start, some stop =>
      match ((← get).stretches[index]?).getD .idle, stop with
      | .open (some last), stop =>
        let n := (← get).number
        if last ≤ n then setStretch index .closed
        pure (n ≤ last || !(stop matches .address _))
      | .open none, .address stop =>
        if ← fits stop then setStretch index .closed
        pure true
      | .open none, _ => pure true
      | state, stop => begins index start stop (state == .closed)
  return found != c.negated

/-! ### Commands -/

inductive Outcome
  /-- With the command of this number. -/
  | go (index : Nat)
  /-- The line is printed, unless it is not to be. -/
  | done
  | discarded
  /-- The next cycle begins with what is left of the line. -/
  | again
  | left (status : Nat)

/-- Writes the first line of the line at hand, which may have become several. -/
def putFirst (target : Target) : Edit Unit := do
  let mark := (← read).mark
  let s ← get
  putLine target (s.line.takeWhile (· != mark)) (s.ends || s.line.contains mark)

/-- Puts the text of a command in front of the lines that follow. -/
def putText (t : Text) : Edit Unit := do
  complete none
  if t ≠ [] then emit none (t.dropLast ++ [(← read).mark])

/-- Has a command carried out, and gives what it prints. -/
def execute (command : Text) : Edit Text := do
  return (← perform (outputOf (← read).start command)).1

def substitute (s : Substitution) : Edit Unit := do
  let e ← resolve s.expression
  match s.result? e (← get).line with
  | none => return ()
  | some line =>
    modify ({ · with line, changed := true })
    if s.executes then
      let t ← execute line
      let mark := (← read).mark
      modify ({ · with line := if t.getLast? = some mark then t.dropLast else t })
    if s.prints then putCurrent none
    match s.output with
    | some name => putCurrent (some name)
    | none => return ()

/-- Takes the next line of a file that is read line by line. -/
def readLine (name : Text) : Edit Unit := do
  let reader ← match (← get).readers.lookup name with
    | some reader => pure reader
    | none => pure (← perform (Feed.ofFile name)).toOption
  match reader with
  | none => return ()
  | some f =>
    let (t, f) ← perform (Feed.piece (← read).mark Activity.readLimit f)
    modify fun s =>
      { s with
        readers := (name, some f) :: s.readers.filter (·.1 != name)
        additions := s.additions ++ (t.map .text).toList }

/-- Carries out an action, and says how it goes on. -/
def act (index : Nat) (a : Action) : Edit Outcome := do
  let m ← read
  let s ← get
  let following : Outcome := .go (index + 1)
  let add (a : Addition) : Edit Unit := set { s with additions := s.additions ++ [a] }
  match a with
  | .opening _ | .closing | .mark => return following
  | .append t => add (.text t)
  | .readFile name => add (.file name)
  | .readLine name => readLine name
  | .insert t => putText t
  | .change t =>
    if !(s.stretches[index]? matches some (.open _)) then putText t
    return .discarded
  | .delete => return .discarded
  | .deleteLine =>
    match s.line.dropWhile (· != m.mark) with
    | [] => return .discarded
    | _ :: line =>
      set { s with line }
      return .again
  | .execute [] =>
    let t ← execute s.line
    set { s with line := if t.getLast? = some m.mark then t.dropLast else t }
  | .execute command =>
    let t ← execute command
    complete none
    emit none t
  | .fileName => putLine none s.name true
  | .get => set { s with line := s.kept, ends := s.keptEnds }
  | .getMore => set { s with line := s.line ++ m.mark :: s.kept, ends := s.keptEnds }
  | .hold => set { s with kept := s.line, keptEnds := s.ends }
  | .holdMore => set { s with kept := s.kept ++ m.mark :: s.line, keptEnds := s.ends }
  | .exchange =>
    set { s with line := s.kept, ends := s.keptEnds, kept := s.line, keptEnds := s.ends }
  | .reveal width =>
    putLine none (folded (width.getD m.width) 0 (s.line.map revealed)) true
  | .lineNumber => putLine none (Text.decimal s.number) true
  | .next =>
    if ← isLast then return .done
    if !m.quiet then putCurrent none
    match ← nextLine with
    | none => return .discarded
    | some (line, ends) => modify ({ · with line, ends })
  | .nextMore =>
    if ← isLast then return .done
    match ← nextLine with
    | none => return .done
    | some (line, ends) => modify ({ · with line := s.line ++ m.mark :: line, ends })
  | .print => putCurrent none
  | .printLine => putFirst none
  | .write name => putCurrent (some name)
  | .writeLine name => putFirst (some name)
  | .quit status =>
    if !m.quiet then putCurrent none
    putAdditions
    return .left status
  | .quitSilently status => return .left status
  | .substitute s => substitute s
  | .transliterate pairs =>
    set { s with line := s.line.map fun c => (pairs.lookup c).getD c }
  | .erase => set { s with line := [] }
  | .jump condition label =>
    let goes := condition.all (· == s.changed)
    if condition.isSome then set { s with changed := false }
    if !goes then return following
    else if label = [] then return .done
    else return .go ((m.script.labels.lookup label).getD m.script.commands.size)
  return following

/-- Carries out the commands of a cycle from one on. -/
def cycle : Nat → Nat → Edit Outcome
  | 0, _ => return .done
  | n + 1, index => do
    match (← read).script.commands[index]? with
    | none => return .done
    | some c =>
      if ← concerns index c then
        match ← act index c.action with
        | .go index => cycle n index
        | outcome => return outcome
      else
        match c.action with
        | .opening stop => cycle n stop
        | _ => cycle n (index + 1)

/-- Goes through the lines, and gives the status to end with. `ready` says that a line is at hand.
-/
def cycles : Nat → Bool → Edit Nat
  | 0, _ => return 0
  | n + 1, ready => do
    if !ready then
      match ← nextLine with
      | none => return (← get).status
      | some (line, ends) => modify ({ · with line, ends })
    match ← cycle Activity.readLimit 0 with
    | .left status =>
      let worst := (← get).status
      return if status = 0 then worst else status
    | .again => cycles n true
    | .discarded => cycles n false
    | .done | .go _ =>
      if !(← read).quiet then putCurrent none
      cycles n false

/-- Carries out the script. What has been read of the input and not been used is put back. -/
def run : Edit Nat := do
  let m ← read
  modify ({ · with stretches := firstStretches m.script })
  let status ← cycles Activity.readLimit false
  match (← get).feed with
  | some f => if f.descriptor = 0 then perform (Tool.act (.goBack 0 f.buffer.length))
  | none => pure ()
  closeInput
  return status

end Edit
end LineShell.Editing
