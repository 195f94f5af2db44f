import LineShell.Host.Bare
import LineShell.Launch

/-!
The command line. It hands the arguments, the variables and the standard input over, and writes what
comes back. Programs run on the host of the library, which is given the script and the history file.
-/
namespace LineShell.Main

partial def readAll (stream : IO.FS.Stream) (read : ByteArray) : IO ByteArray := do
  let more ← stream.read 65536
  if more.isEmpty then return read else readAll stream (read ++ more)

def readFile? (path : Path) : IO (Option Bytes) := do
  try
    return some (← IO.FS.readBinFile (String.ofList path.text)).toList
  catch _ => return none

def environment : IO (List (Text × Text)) := do
  let content := (← readFile? (.ofText "/proc/self/environ".toList)).getD []
  return (splitWhere (· == 0) content).filterMap fun t => Text.cut? '=' (Utf8.decode t)

/-- Puts a file of this machine among those of a host, if it can be read. -/
def fetch (here : Path) (files : FileSystem) (path : Path) : IO FileSystem := do
  match ← readFile? (here.join path) with
  | none => return files
  | some content =>
    let location := (here.join path).names.filter (· != [])
    return ((files.makeDirectories location.dropLast).putFile location 0o755 content).2

def emit (streams : Streams) : IO Unit := do
  let (out, err) := (← IO.getStdout, ← IO.getStderr)
  out.write ⟨streams.out.content.toArray⟩
  out.flush
  err.write ⟨streams.err.content.toArray⟩
  err.flush

/-- Prompts for lines and runs them as they come. -/
partial def converse (sh : Shell) : IO Shell := do
  if sh.session.exitRequest.isSome then return sh
  emit (sh.tell Shell.prompt).streams
  let line ← (← IO.getStdin).getLine
  if line.isEmpty then
    return sh.tell ['\n']
  else
    match { sh with streams := {} }.hear Launch.factories line.toUTF8.toList with
    | some sh => converse sh
    | none => return sh

def saveHistory (sh : Shell) : IO Unit := do
  match sh.session.history.path with
  | none => return
  | some path =>
    try
      IO.FS.writeBinFile (String.ofList path.text) ⟨sh.session.history.fileContent.toArray⟩
    catch _ => return

def codeOf : Ending → UInt32
  | .exited code => code.toUInt32
  | .signalled number => UInt32.ofNat (128 + number)

/-- Starts the shell with the arguments of this process, and gives the code to exit with. -/
def run (arguments : List String) : IO UInt32 := do
  let stdin ← IO.getStdin
  let isTerminal ← stdin.isTty
  let here := Path.ofText (← IO.currentDir).toString.toList
  let location := here.names.filter (· != [])
  let launchOn (files : FileSystem) (input : Host.Input) (environment : List (Text × Text)) :
      Launch :=
    { name := "hsh".toList, arguments := arguments.map String.toList, environment
      host := Host.boot files location 2 input false }
  let pairs ← environment
  let bare := launchOn (Host.bareFiles.makeDirectories location) .nothing pairs
  let paths := bare.historyPath.toList ++ bare.arguments.map Path.ofText
  let files ← paths.foldlM (fetch here) (Host.bareFiles.makeDirectories location)
  let input ← if isTerminal then pure (.typed []) else
    pure (.piped (← readAll stdin ByteArray.empty).toList)
  let launch := launchOn files input pairs
  match (Launch.synopsis launch.name).parse launch.arguments, isTerminal with
  | .ok ⟨[], []⟩, true =>
    let sh ← converse (launch.shell true launch.historyPath launch.introduced)
    let (status, sh) := sh.finish
    emit sh.streams
    saveHistory sh
    return (Status.exitCode status).toUInt32
  | _, _ =>
    let (ending, sh) := launch.run
    emit sh.streams
    saveHistory sh
    return codeOf ending

end LineShell.Main

def main (arguments : List String) : IO UInt32 := LineShell.Main.run arguments
