import LineShell.Host.Basic
import LineShell.Session
import LineShell.Streams

/-!
The whole state of a running shell. A command is a function of it that ends with a status or a
fault, and may have changed the state either way.
-/
namespace LineShell

/-- A shell between two lines: its session, its streams and its host. -/
structure Shell where
  session : Session := {}
  streams : Streams := {}
  host : Host := {}
  warnings : List Warning := []

/-- What a command ends with, and the state it leaves. -/
abbrev Result := Except Fault Status × Shell

/-- A command changes the shell, and ends with a status or a fault. -/
abbrev Command := Shell → Result

/-- Makes the command of a name and arguments, if it knows the name. -/
abbrev Factory := Shell → Text → List Text → Option Command

namespace Shell

/-- Writes bytes to the output stream and ends with a status; a write that fails is a fault. -/
def putOut (bytes : Bytes) (status : Status) : Command := fun sh =>
  match sh.streams.out.write bytes with
  | (.ok (), out) => (.ok status, { sh with streams.out := out })
  | (.error fault, out) => (.error fault, { sh with streams.out := out })

/-- As `putOut`, to the error stream. -/
def putErr (bytes : Bytes) (status : Status) : Command := fun sh =>
  match sh.streams.err.write bytes with
  | (.ok (), err) => (.ok status, { sh with streams.err := err })
  | (.error fault, err) => (.error fault, { sh with streams.err := err })

def print (t : Text) : Command := putOut (Utf8.encode t) 0

/-- Prints lines one by one, up to one that cannot be written. -/
def printLines : List Text → Command
  | [], sh => (.ok 0, sh)
  | t :: rest, sh =>
    match print t.line sh with
    | (.ok _, sh) => printLines rest sh
    | (.error fault, sh) => (.error fault, sh)

/-- Writes a diagnostic of a command to the error stream and ends with a status. -/
def complain (command message : Text) (status : Status) : Command := fun sh =>
  putErr (Utf8.encode (sh.session.diagnostic command message).line) status sh

/-- Writes a diagnostic; if it cannot be written, the log says so. -/
def report (sh : Shell) (command message : Text) : Shell :=
  match complain command message 0 sh with
  | (.ok _, sh) => sh
  | (.error fault, sh) => { sh with warnings := sh.warnings ++ [.diagnosticLost fault] }

end Shell
end LineShell
