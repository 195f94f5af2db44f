import LineShell.Host.FileSystem
import LineShell.Host.Signal

/-! Processes: what the system knows about a running program. -/
namespace LineShell

inductive Ending
  | exited (code : UInt8)
  | signalled (number : Nat)
  deriving DecidableEq, Repr

/-- How much of something a process may use, and how far that can be raised; without a number there
is no end to it. -/
structure Limits where
  soft : Option Nat := none
  hard : Option Nat := none

/-- A running program. Its texts are byte strings, a character for each byte. -/
structure Process where
  id : Nat := 1
  parent : Nat := 0
  arguments : List Text := []
  /-- The variables, `name=value` each. -/
  environment : List Text := []
  /-- The file of the program. -/
  program : Path := ⟨[]⟩
  /-- The last name of the path that it was started by. -/
  title : Text := []
  directory : Location := []
  /-- What each descriptor refers to among all that was opened. -/
  descriptors : List (Nat × Nat) := []
  /-- What it may use, by the letters of `ulimit`. -/
  limits : List (Char × Limits) := []
  /-- How much it gives way to others: the more, the higher the number. -/
  niceness : Int := 0
  /-- The permissions that new files do not get. -/
  mask : Nat := 0o022
  /-- The signals that do nothing to it. -/
  ignored : List Nat := []
  /-- The signals that it deals with by itself. -/
  caught : List Nat := []
  /-- Signals that have been sent and nothing has been done about yet. -/
  pending : List Nat := []
  /-- How it has ended, until somebody asks. -/
  ended : Option Ending := none

namespace Process

def value? (p : Process) (name : Text) : Option Text :=
  p.environment.findSome? fun t =>
    match Text.cut? '=' t with
    | some (key, value) => if key = name then some value else none
    | none => none

def name (p : Process) : Text := p.arguments.headD []

def attach (p : Process) (descriptor file : Nat) : Process :=
  { p with descriptors := (descriptor, file) :: p.descriptors.filter (·.1 != descriptor) }

def detach (p : Process) (descriptor : Nat) : Process :=
  { p with descriptors := p.descriptors.filter (·.1 != descriptor) }

/-- The lowest descriptor from a number on that refers to nothing. -/
def freeDescriptor (p : Process) (lowest : Nat) : Nat :=
  ((List.range (p.descriptors.length + 1)).map (· + lowest)).find?
    (fun n => (p.descriptors.lookup n).isNone) |>.getD lowest

/-- A signal that ends the process: nothing is to be done about it. -/
def fatalSignal? (p : Process) : Option Nat :=
  p.pending.find? fun n =>
    n == 9 || !(Signal.isHarmless n || p.ignored.contains n || p.caught.contains n)

end Process
end LineShell
