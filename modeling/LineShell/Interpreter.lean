import LineShell.Builtin.Table
import LineShell.Expansion
import LineShell.External
import LineShell.Reader
import LineShell.Segment

/-! Running commands, lines of segments, and whole inputs. -/
namespace LineShell

def defaultFactories (programs : Programs) : List Factory :=
  [Builtin.factory, External.factory programs]

namespace Shell

/-- Runs the command that the first factory makes for a name. Faults are reported and end with their
status. -/
def run (factories : List Factory) (name : Text) (arguments : List Text) (sh : Shell) :
    Status × Shell :=
  match factories.findSome? fun factory => factory sh name arguments with
  | none => (.notFound, sh.report name Failure.notFound.message)
  | some command =>
    match command sh with
    | (.ok status, sh) => (status, sh)
    | (.error fault, sh) => (fault.status, sh.report name fault.message)

/-- Runs the command that a segment stands for and remembers its status. A segment without words
runs nothing and changes nothing. -/
def runSegment (factories : List Factory) (text : Text) (sh : Shell) : Option Status × Shell :=
  match sh.session.argv text with
  | [] => (none, sh)
  | name :: arguments =>
    let (status, sh) := sh.run factories name arguments
    (some status, { sh with session.lastStatus := status })

/-- Runs the segments whose gates allow it, until one of them asks to stop. -/
def runSegments (factories : List Factory) : List Segment → Shell → Shell
  | [], sh => sh
  | segment :: rest, sh =>
    if sh.session.exitRequest.isSome then sh
    else if segment.gate.permits sh.session.lastStatus then
      runSegments factories rest (sh.runSegment factories segment.text).2
    else runSegments factories rest sh

def runLine (factories : List Factory) (line : Text) (sh : Shell) : Shell :=
  runSegments factories (Segment.ofLine line) sh

/-- Counts a line and records it without the white space around it, if anything is left of it. -/
def enter (line : Text) (sh : Shell) : Shell :=
  let s := { sh.session with lineCount := sh.session.lineCount + 1 }
  match Text.trim line with
  | [] => { sh with session := s }
  | entry => { sh with session := { s with history := s.history.push entry } }

def accept (factories : List Factory) (line : Text) (sh : Shell) : Shell :=
  runLine factories line (sh.enter line)

/-- Reads and runs lines until one asks to stop or the stream ends. -/
def repl (factories : List Factory) (reader : Reader) (sh : Shell) : Shell :=
  if sh.session.exitRequest.isSome then sh
  else
    match h : reader.readLine with
    | (none, _) => sh
    | (some line, reader') =>
      have := Reader.readLine_lt h
      repl factories reader' (sh.accept factories line)
termination_by reader.input.length

/-- Saves the history, and gives the status to end with: the one asked for; else success where input
was typed, and the last status where it was not. -/
def finish (sh : Shell) : Status × Shell :=
  let s := sh.session
  let status := s.exitRequest.getD (if s.interactive then 0 else s.lastStatus)
  let (saved, files) := s.history.save sh.host.files sh.host.directory
  let left := { sh with host := sh.host.accept files }
  match saved with
  | .ok () => (status, left)
  | .error cause => (status, { left with warnings := sh.warnings ++ [.historyUnsaved cause] })

end Shell
end LineShell
