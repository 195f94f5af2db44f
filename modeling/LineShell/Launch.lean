import LineShell.Host.Spawn
import LineShell.LogSpec
import LineShell.Terminal

/-! The shell as a program: its arguments, where its lines come from, and how it ends. -/
namespace LineShell

structure Launch where
  /-- The name that it was called by. -/
  name : Text
  arguments : List Text
  /-- The variables; of several values for a name the last counts. -/
  environment : List (Text × Text)
  /-- Has the process that the shell is to be, with its input and its directory. -/
  host : Host

namespace Launch

def commandSwitch : Switch where
  short := "-c".toList
  long := "--command".toList
  value := "command".toList
  help := "run a single command line and exit".toList

def synopsis (name : Text) : Synopsis where
  name := name
  description := "A simple command interpreter.".toList
  switches := [commandSwitch]
  operands := .optional "script".toList
    "file to read commands from instead of standard input".toList

/-- A variable as a process is given it. The name has at least one character, which may be `=`. -/
def binding? : Text → Option (Text × Text)
  | [] => none
  | c :: rest => (Text.cut? '=' rest).map fun (name, value) => (c :: name, value)

def env (l : Launch) : Bindings := .ofPairs ((environmentOf l.environment).filterMap binding?)

/-- The host with what the process of the shell is known by. -/
def introduced (l : Launch) : Host :=
  l.host.modify (·.modifyProcess l.host.self fun p =>
    { p with
      arguments := (l.name :: l.arguments).map Text.toOctets
      environment := (environmentOf l.environment).map Text.toOctets
      title := l.name.toOctets.take titleLimit })

/-- The shell as it starts, with the history of a file if there is one. It has already said what is
wrong with the logging that was asked for. -/
def shell (l : Launch) (interactive : Bool) (historyPath : Option Path) (host : Host) : Shell :=
  let session : Session :=
    { env := l.env, directory := host.directory.path, interactive, name := l.name
      processId := host.self }
  let (session, warnings) := session.seeded host.files host.directory historyPath
  let spec := (l.env.get? LogSpec.variableName).getD []
  let err : Sink := { content := Utf8.encode (LogSpec.warnings spec) }
  { session, host, warnings, streams := { err } }

def historyPath (l : Launch) : Option Path := (l.env.get? "HOME".toList).map History.pathIn

/-- The shell before it has looked at anything but its arguments. -/
def bareShell (l : Launch) : Shell := l.shell false none l.introduced

def refuse (l : Launch) (refusal : Refusal) : Status × Shell :=
  let message := refusal.message (synopsis l.name)
  if refusal.isError then
    let hint := "\nRun ".toList ++ l.name ++ " --help for more information.".toList
    (1, (Shell.putErr (Utf8.encode (message ++ hint).line) 0 l.bareShell).2)
  else (0, (Shell.print message.line l.bareShell).2)

/-- A shell that a signal has ended does nothing more, whatever it was about to run. -/
def stillness : Factory := fun sh _ _ =>
  if sh.host.fatalSignal?.isSome then some fun sh => (.ok sh.session.lastStatus, sh) else none

/-- The builtins and the programs of the host, as long as the shell lives. -/
def factories : List Factory := stillness :: defaultFactories Host.spawn

/-- Runs a single line. Its history is not kept. -/
def runCommand (l : Launch) (line : Text) : Shell :=
  Shell.runLine factories (Text.stripComment line) { l.bareShell with session.lineCount := 1 }

/-- Ends a shell as its session asks. A signal leaves no time for that. -/
def conclude (sh : Shell) : Status × Shell :=
  if sh.host.fatalSignal?.isSome then (sh.session.lastStatus, sh) else sh.finish

def runScript (l : Launch) (path : Path) : Status × Shell :=
  match l.introduced.perform (Activity.openForReading path.octets) with
  | (some (.ok descriptor), host) =>
    conclude (Shell.replAll factories descriptor (l.shell false l.historyPath host))
  | (_, host) =>
    let text := l.name ++ ": 0: Can't open ".toList ++ path.text
    (.notFound, (Shell.putErr (Utf8.encode text.line) 0 { l.bareShell with host }).2)

def runInput (l : Launch) : Shell :=
  let sh := l.shell l.host.isTerminal l.historyPath l.introduced
  if l.host.isTerminal then Shell.converseAll factories sh
  else Shell.replAll factories 0 sh

def perform (l : Launch) : Status × Shell :=
  match (synopsis l.name).parse l.arguments with
  | .error refusal => l.refuse refusal
  | .ok given =>
    match given.values.lookup commandSwitch.long, given.operands with
    | some line, _ => conclude (l.runCommand line)
    | none, [] => conclude l.runInput
    | none, path :: _ => l.runScript (.ofText path)

/-- Runs the shell to its end and beyond, until nobody writes to its outputs any more. A signal that
ends it leaves no time to finish. -/
def run (l : Launch) : Ending × Shell :=
  let (status, sh) := l.perform
  let ending := match sh.host.fatalSignal? with
    | some number => .signalled number
    | none => .exited (Status.exitCode status)
  let (out, err, host) := sh.host.close ending
  let sh := (Shell.putOut out 0 { sh with host }).2
  (ending, (Shell.putErr err 0 sh).2)

end Launch
end LineShell
