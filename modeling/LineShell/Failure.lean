import LineShell.Status
import LineShell.Host.FileSystem

/-! Why commands fail, with the text and the exit status that each cause is reported with. -/
namespace LineShell

inductive InputError
  | endOfInput
  | interrupted
  | io (cause : IoError)
  deriving DecidableEq, Repr

def InputError.message : InputError → Text
  | .endOfInput => "EOF".toList
  | .interrupted => "Interrupted".toList
  | .io cause => cause.message

/-- The failures that the shell itself knows. -/
inductive Failure
  /-- Neither a builtin nor a program has this name. -/
  | notFound
  /-- The program was found but could not be started. -/
  | exec (cause : IoError)
  /-- A builtin rejected its arguments. -/
  | argument (status : Status) (message : Text)
  | history (path : Path) (cause : IoError)
  | input (cause : InputError)
  | io (cause : IoError)
  deriving DecidableEq, Repr

namespace Failure

def message : Failure → Text
  | .notFound => "not found".toList
  | .exec cause | .io cause => cause.message
  | .argument _ message => message
  | .history path cause => "history file ".toList ++ path.text ++ ": ".toList ++ cause.message
  | .input cause => "input: ".toList ++ cause.message

/-- A program that has vanished counts as not found. -/
def status : Failure → Status
  | .notFound => .notFound
  | .exec cause => if cause = .os .noEntry then .notFound else .notExecutable
  | .argument status _ => status
  | .history .. | .input _ | .io _ => 1

end Failure

/-- What a command can fail with: a failure that the shell knows, any other text, or one of these
retold in other words. -/
inductive Fault
  | shell (failure : Failure)
  | plain (message : Text)
  | within (context : Text) (cause : Fault)
  deriving DecidableEq, Repr

namespace Fault

/-- Only the outermost words are shown. -/
def message : Fault → Text
  | .shell failure => failure.message
  | .plain message => message
  | .within context _ => context

/-- Retelling a failure keeps its status. -/
def status : Fault → Status
  | .shell failure => failure.status
  | .plain _ => 1
  | .within _ cause => cause.status

def usage (status : Status) (message : Text) : Fault := .shell (.argument status message)

end Fault
end LineShell
