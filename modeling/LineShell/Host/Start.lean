import LineShell.Host.Utility.Table
import LineShell.Text.Octets

/-!
Starting a program in place of another. A file runs by itself if it is a program of the host; else
its first line names its interpreter, and that is started with the path of the file as an argument.
-/
namespace LineShell

/-!
### The first line of a file

It names an interpreter: `#!`, the path of the interpreter, and perhaps one argument.
-/

namespace Header

/-- How much of a file is looked at, its first two bytes included. -/
def limit : Nat := 256

/-- Whether a byte separates the parts of a first line. -/
def isBlank (c : Char) : Bool := c == ' ' || c == '\t'

/-- The text behind `#!` that names the interpreter. Without an end in sight the line may go on
behind it, unless a blank or a NUL shows that the name does not. -/
def line? (rest : Text) : Option Text :=
  let line := rest.takeWhile fun c => c != '\n' && c != '\x00'
  if rest[line.length]? = some '\n' then some line
  else
    let name := rest.dropWhile isBlank
    if name.all fun c => !isBlank c && c != '\x00' then none else some rest.dropLast

/-- The interpreter that a file names and the argument written behind it, if there is one. A NUL
ends either. -/
def interpreter? (content : Text) : Option (Text × List Text) :=
  match (content ++ List.replicate limit '\x00').take limit with
  | '#' :: '!' :: rest =>
    match line? rest with
    | none => none
    | some line =>
      let text := ((line.reverse.dropWhile isBlank).reverse).dropWhile isBlank
      if text = [] then none
      else
        let name := text.takeWhile fun c => !isBlank c && c != '\x00'
        match text.drop name.length with
        | [] | '\x00' :: _ => some (name, [])
        | after => some (name, [(after.dropWhile isBlank).takeWhile (· != '\x00')])
  | _ => none

end Header

/-! ### What a file runs as -/

/-- One argument or variable, with its end mark, takes at most this many bytes. -/
def textLimit : Nat := 131072

/-- The path of a program, its arguments and its variables, with a pointer to each of those, take at
most this many bytes. -/
def totalLimit : Nat := 2097152

/-- How many bytes the path of a program and the pointers leave for arguments and variables; there
is a pointer at least for the name. -/
def roomFor (path : Text) (arguments environment : List Text) : Int :=
  totalLimit - 8 * (max arguments.length 1 + environment.length : Nat) - (path.length + 1 : Nat)

/-- Whether arguments and variables take more room than there is. -/
def isTooLong (room : Int) (arguments environment : List Text) : Bool :=
  let sizes := (arguments ++ environment).map fun t => t.length + 1
  sizes.any (textLimit < ·) || decide (room < (sumOf sizes : Nat))

structure Image where
  /-- What the host calls it. -/
  name : Text
  /-- The file that it is in. -/
  program : Path
  arguments : List Text

namespace System

/-- The stored file behind a node, which may stand for something open. -/
def stored? (s : System) : Node → Option FileId
  | .file id => some id
  | .handle file _ =>
    match s.opened[file]? with
    | some { source := .stored id, .. } => some id
    | _ => none
  | _ => none

/-- Whether somebody has a file open that may be written to. -/
def isWritten (s : System) (id : FileId) : Bool :=
  s.processes.any fun p => p.descriptors.any fun (_, file) =>
    match s.opened[file]? with
    | some { source := .stored other, mayWrite := true, .. } => other == id
    | _ => false

/-- The file of a program, as a process finds it: its place and its bytes. -/
def programFile (s : System) (v : View) (path : Text) : Except IoError (Location × Text) :=
  match v.find path with
  | .error cause => .error cause
  | .ok (location, node) =>
    match s.stored? node with
    | none => .error (.os .accessDenied)
    | some id =>
      if !v.files.mayExecute (.file id) then .error (.os .accessDenied)
      else if s.isWritten id then .error (.os .textFileBusy)
      else .ok (location, Text.ofBytes (s.files.inode id).content)

/-- How many files may name one another as interpreters. -/
def interpreterLimit : Nat := 5

/-- Follows a file to the program that runs it, with the arguments that are put in front of its own
on the way; all of them have to fit into the room. -/
def follow (s : System) (v : View) (environment : List Text) (room : Int) :
    Nat → Text → List Text → Except IoError Image
  | levels, path, arguments =>
    match s.programFile v path with
    | .error cause => .error cause
    | .ok (location, content) =>
      if isTooLong room arguments environment then .error (.os .argumentsTooLong)
      else
        let mark := Text.ofBytes FileSystem.programMark
        if mark.isPrefixOf content ∧ Utility.names.contains (content.drop mark.length) then
          .ok ⟨content.drop mark.length, location.path, arguments⟩
        else
          match levels with
          | 0 => .error (.os .tooManyLinks)
          | levels + 1 =>
            match Header.interpreter? content with
            | none => .error (.os .noExecFormat)
            | some ([], _) => .error (.os .accessDenied)
            | some (name, extra) =>
              s.follow v environment room levels name (name :: extra ++ path :: arguments.tail)

/-- The program that a file with some arguments runs as. -/
def load (s : System) (v : View) (environment : List Text) (path : Text) (arguments : List Text) :
    Except IoError Image :=
  s.follow v environment (roomFor path arguments environment) interpreterLimit path arguments

end System

/-! ### Starting -/

/-- The name of a process is cut off behind so many bytes. -/
def titleLimit : Nat := 15

/-- The process as a program of its own. Of what is open it keeps the first ten descriptors. -/
def Process.become (p : Process) (image : Image) (path : Text) (environment : List Text) :
    Process :=
  { p with
    arguments := image.arguments
    environment
    program := image.program
    title := ((splitWhere (· == '/') path).getLast?.getD []).take titleLimit
    descriptors := p.descriptors.filter (·.1 < 10)
    caught := [] }

/-- How long it takes until a program runs, in nanoseconds. -/
def startTime : Nat := 1000000

/-- How many programs may be started in place of one another. -/
def startLimit : Nat := 2000

def startWithin : Nat → Script.Start
  | 0, _, _, _ => return .error (.os .tryAgain)
  | limit + 1, path, arguments, environment => do
    let s ← Activity.system
    match s.load (← Activity.view) environment path arguments with
    | .error cause => return .error cause
    | .ok image =>
      Activity.alter (·.become image path environment)
      Activity.spend startTime
      return .ok (← Utility.run (startWithin limit) image.name)

def start : Script.Start := startWithin startLimit

end LineShell
