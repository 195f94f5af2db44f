import LineShell.Host.Basic
import LineShell.Text.Utf8

/-! What the shell asks of the machine when it runs a program, and what it gets back. -/
namespace LineShell

structure Call where
  path : Path
  /-- The first argument is the name that the program was called by. -/
  arguments : List Text
  /-- The variables, `name=value` each. -/
  environment : List Text
  directory : Path

/-- What a program leaves behind that has ended. -/
structure Outcome where
  out : Bytes := []
  err : Bytes := []
  ending : Ending := .exited 0
  deriving DecidableEq, Repr

/-- The programs of a machine. One that is called cannot be started, or it is waited for, and that
may fail as well; the machine may be another one behind it. What comes of a call depends on the call
and on the machine with its files, and on nothing that the shell remembers or has written. Every
program ends: the shell waits for it, and does nothing more behind one that does not. -/
abbrev Programs := Host → Call → Except IoError (Except IoError Outcome × Host)

/-- A machine whose programs all write their operands, with a blank between two, and succeed. -/
def Programs.echo : Programs := fun host call =>
  .ok (.ok { out := Utf8.encode (Text.joined [' '] call.arguments.tail).line }, host)

/-- Gives a name a value in a list of pairs that is sorted by name. -/
def insertSorted (name value : Text) : List (Text × Text) → List (Text × Text)
  | [] => [(name, value)]
  | (key, old) :: rest =>
    if name < key then (name, value) :: (key, old) :: rest
    else if name = key then (name, value) :: rest
    else (key, old) :: insertSorted name value rest

/-- The variables as a program gets them: sorted by name, and of several values for a name the
last. -/
def environmentOf (pairs : List (Text × Text)) : List Text :=
  (pairs.foldl (fun sorted (name, value) => insertSorted name value sorted) []).map
    fun (name, value) => name ++ '=' :: value

end LineShell
