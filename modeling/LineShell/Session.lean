import LineShell.Bindings
import LineShell.History

/-! What a running shell remembers from one command to the next. -/
namespace LineShell

/-- What the shell has to say about itself, apart from the commands it runs. -/
inductive Warning
  | diagnosticLost (cause : Fault)
  | historyUnread (cause : Failure)
  | historyUnsaved (cause : Failure)
  | inputLost (cause : InputError)
  deriving DecidableEq, Repr

/-- The warning behind its level. -/
def Warning.message : Warning → Text
  | .diagnosticLost cause => "WARN: cannot write diagnostic: ".toList ++ cause.message
  | .historyUnread cause =>
    "WARN: ".toList ++ cause.message ++ "; continuing with empty history".toList
  | .historyUnsaved cause => "WARN: ".toList ++ cause.message
  | .inputLost cause => "ERROR: ".toList ++ (Failure.input cause).message

structure Session where
  /-- The variables, which every program that the shell starts is given. -/
  env : Bindings := {}
  aliases : Bindings := {}
  history : History := {}
  /-- The directory that commands run in. -/
  directory : Path := ⟨['/']⟩
  /-- The status of the last segment that ran. -/
  lastStatus : Status := 0
  /-- The number of lines read. -/
  lineCount : UInt64 := 0
  interactive : Bool := false
  /-- The name in front of diagnostics. -/
  name : Text := []
  processId : Nat := 1
  /-- The status that `exit` asked to stop with. -/
  exitRequest : Option Status := none
  deriving DecidableEq, Repr

namespace Session

/-- Gives a new session the history of a file. If that cannot be read, the history is empty, and
still the one of that file. -/
def seeded (s : Session) (fs : FileSystem) (base : Location) (path : Option Path) :
    Session × List Warning :=
  match path with
  | none => (s, [])
  | some path =>
    match History.load fs base path with
    | .ok history => ({ s with history }, [])
    | .error cause => ({ s with history := { path } }, [.historyUnread cause])

/-- A message of the form `name: line: command: message`. -/
def diagnostic (s : Session) (command message : Text) : Text :=
  s.name ++ ": ".toList ++ Text.decimal s.lineCount.toNat ++ ": ".toList ++ command ++
    ": ".toList ++ message

end Session
end LineShell
