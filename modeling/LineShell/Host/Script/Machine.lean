import LineShell.Host.Accounts
import LineShell.Host.Script.Parser

/-! The state of a running script. -/
namespace LineShell.Script

/-- A variable, with or without a value. -/
structure Variable where
  value : Option Text
  /-- Programs that the script starts are given it. -/
  exported : Bool := false
  /-- It cannot be changed any more. -/
  fixed : Bool := false

/-- A command that runs beside the script. -/
structure Job where
  number : Nat
  /-- Its processes, with how those ended that have. -/
  processes : List (Nat × Option Ending)
  /-- Somebody has waited for its end. -/
  waited : Bool := false

namespace Job

/-- How a job has ended: as its last process did, once all have. -/
def ending? (j : Job) : Option Ending :=
  if j.processes.all (·.2.isSome) then (j.processes.getLast?).bind (·.2) else none

def process (j : Job) : Nat := (j.processes.getLast?).elim 0 (·.1)

end Job

structure Machine where
  /-- What the script was called by. -/
  name : Text
  /-- The process that `$$` names: the script itself, also in its subshells. -/
  mainProcess : Nat := 1
  parameters : List Text := []
  known : List (Text × Variable) := []
  functions : List (Text × Command) := []
  aliases : List (Text × Text) := []
  /-- The programs that have been found along the search path, with their files. -/
  tracked : List (Text × Text) := []
  documents : List (Nat × Word) := []
  /-- The letters of the options that are on. -/
  options : List Char := []
  /-- The directory that the script believes to be in. -/
  directory : Text := ['/']
  /-- The status of the last command. -/
  status : Nat := 0
  /-- The status of the last script in a word since the command began. -/
  innerStatus : Nat := 0
  /-- The line of the command that runs. -/
  line : Nat := 1
  /-- The command of the script's own that runs. -/
  command : Text := []
  /-- What that command has printed, last first. -/
  printed : List Text := []
  /-- What is done about signals; the end of the script counts as signal 0. -/
  traps : List (Nat × Text) := []
  /-- The last one to be started comes first. -/
  jobs : List Job := []
  /-- The process of the last job. -/
  lastJob : Option Nat := none
  /-- How many functions the command stands in. -/
  calls : Nat := 0
  /-- How many loops the command stands in. -/
  loops : Nat := 0
  /-- What the variables of each function were before, the innermost function first. -/
  locals : List (List (Text × Option Variable)) := []
  /-- How many characters of its argument `getopts` has read. -/
  optionOffset : Nat := 0
  /-- The status to end with, once the script is about to end. -/
  leaving : Option Nat := none

/-- Why the commands behind the one that runs are left out. -/
inductive Stop
  /-- A mistake that ends the script. -/
  | failure
  | exit
  | breaks (loops : Nat)
  | continues (loops : Nat)
  | returns

abbrev Step := ExceptT Stop (StateT Machine Activity)

namespace Step

/-- Carries out what the process of the script does. -/
def perform {α : Type} (activity : Activity α) : Step α := fun m => do return (.ok (← activity), m)

def setStatus (status : Nat) : Step Unit := modify ({ · with status })

def write (descriptor : Nat) (t : Text) : Step (Option Errno) := perform (.write descriptor t)

def self : Step Process := perform .self

def view : Step View := perform .view

def find (name : Text) : Step (Except IoError (Location × Node)) := perform (.find name)

def tell (message : Text) : Step Unit := do
  let _ ← write 2 message.line

/-- Writes a message behind the name of the script, the line, and the command if there is one. -/
def report (message : Text) : Step Unit := do
  let m ← get
  let source := if m.command = [] then [] else m.command ++ ": ".toList
  tell (m.name ++ ": ".toList ++ Text.decimal m.line ++ ": ".toList ++ source ++ message)

/-- Reports a mistake, and stops what can be stopped. -/
def fail {α : Type} (message : Text) : Step α := do
  report message
  setStatus 2
  throw .failure

/-- Prints text. It is written when the command that prints has ended. -/
def print (t : Text) : Step Unit := modify fun m => { m with printed := t :: m.printed }

def printLine (t : Text) : Step Unit := print t.line

/-- Runs a step with a change to the state that is taken back whatever happens. -/
def around {α : Type} (before after : Machine → Machine) (step : Step α) : Step α := fun m => do
  let (result, m) ← step.run (before m)
  return (result, after m)

/-- Runs a step, and does something behind it whatever happens. -/
def ensuring {α : Type} (step : Step α) (after : Activity Unit) : Step α := fun m => do
  let (result, m) ← step.run m
  after
  return (result, m)

end Step

namespace Machine

def get? (m : Machine) (name : Text) : Option Variable := m.known.lookup name

def value? (m : Machine) (name : Text) : Option Text := (m.get? name).bind Variable.value

/-- The options by letter and name. Some have no letter; what stands for it is no byte. -/
def optionNames : List (Char × String) :=
  [('e', "errexit"), ('f', "noglob"), ('I', "ignoreeof"), ('i', "interactive"), ('m', "monitor"),
    ('n', "noexec"), ('s', "stdin"), ('x', "xtrace"), ('v', "verbose"), ('V', "vi"), ('E', "emacs"),
    ('C', "noclobber"), ('a', "allexport"), ('b', "notify"), ('u', "nounset"), ('p', "privileged"),
    ('Ā', "nolog"), ('ā', "debug")]

def isOctet (c : Char) : Bool := c.toNat < 256

def has (m : Machine) (option : Char) : Bool := m.options.contains option

/-- Sets what is known about a variable; a new one comes last. -/
def put (m : Machine) (name : Text) (v : Variable) : Machine :=
  if (m.get? name).isSome then
    { m with known := m.known.map fun (key, old) => (key, if key = name then v else old) }
  else { m with known := m.known ++ [(name, v)] }

def remove (m : Machine) (name : Text) : Machine :=
  { m with known := m.known.filter (·.1 != name) }

def separators (m : Machine) : Text := (m.value? "IFS".toList).getD [' ', '\t', '\n']

/-- What stands between arguments that are put together. -/
def joint (m : Machine) : Text :=
  match m.value? "IFS".toList with
  | none => [' ']
  | some ifs => ifs.take 1

def bucket (count : Nat) (name : Text) : Nat :=
  (16 * (name.headD '\x00').toNat + sumOf (name.map Char.toNat)) % count

/-- Named things by the buckets that their names fall into. -/
def inBuckets {α : Type} (count : Nat) (named : List (Text × α)) : List (Text × α) :=
  (List.range count).flatMap fun n => named.filter fun (name, _) => bucket count name == n

/-- The variables that a program started by the script is given. -/
def environment (m : Machine) : List Text :=
  let given := m.known.filterMap fun (name, v) =>
    if v.exported then v.value.map (name, ·) else none
  (inBuckets 39 given).map fun (name, value) => name ++ '=' :: value

/-- The value of a parameter that is no list; none for one that is not set. -/
def parameter? (m : Machine) (name : Text) : Option Text :=
  match name with
  | ['?'] => some (Text.decimal m.status)
  | ['#'] => some (Text.decimal m.parameters.length)
  | ['$'] => some (Text.decimal m.mainProcess)
  | ['!'] => m.lastJob.map Text.decimal
  | ['-'] =>
    some ((optionNames.map (·.1)).reverse.filter fun letter => m.has letter && isOctet letter)
  | ['@'] | ['*'] => some (Text.joined m.joint m.parameters)
  | _ =>
    match Text.natural? name with
    | some 0 => some m.name
    | some (n + 1) => m.parameters[n]?
    | none => m.value? name

end Machine

namespace Step

def assign (name value : Text) : Step Unit := do
  let m ← get
  let v := (m.get? name).getD ⟨none, false, false⟩
  if v.fixed then fail (name ++ ": is read only".toList)
  else
    let v := { v with value := some value, exported := v.exported || m.has 'a' }
    let tracked := if name = "PATH".toList then [] else m.tracked
    set { m.put name v with tracked }
    if name = "OPTIND".toList then modify ({ · with optionOffset := 0 })

def exportName (name : Text) : Step Unit := modify fun m =>
  let v := (m.get? name).getD ⟨none, false, false⟩
  m.put name { v with exported := true }

/-- Keeps what a variable was for the end of the innermost function. -/
def keep (name : Text) : Step Unit := modify fun m =>
  match m.locals with
  | [] => m
  | frame :: rest =>
    if (frame.lookup name).isSome then m
    else { m with locals := ((name, m.get? name) :: frame) :: rest }

/-- Gives the variables of the innermost function back what they were. -/
def leaveFunction (m : Machine) : Machine :=
  match m.locals with
  | [] => m
  | frame :: rest =>
    frame.foldl (fun m (name, old) =>
      match old with
      | some v => m.put name v
      | none => m.remove name) { m with locals := rest }

/-- Runs a step as the body of a function, whose variables end with it. -/
def withLocals {α : Type} (step : Step α) : Step α :=
  around (fun m => { m with locals := [] :: m.locals }) leaveFunction step

end Step
end LineShell.Script
