import LineShell.Host.Activity
import LineShell.Host.ProcessFiles

/-! Activities on files: finding, opening and changing them. -/
namespace LineShell

inductive Access
  | read
  | write (append : Bool)
  | both
  deriving DecidableEq, Repr

namespace Access

def reads : Access → Bool
  | .write _ => false
  | _ => true

def writes : Access → Bool
  | .read => false
  | _ => true

end Access

/-- Files, and the directory that relative paths start from. -/
structure View where
  files : FileSystem
  directory : Location

namespace View

def find (v : View) (name : Text) : Except IoError (Location × Node) :=
  v.files.open? v.directory ⟨name⟩

/-- As `find`; a link as the last name is not followed. -/
def entry (v : View) (name : Text) : Except IoError Resolved :=
  v.files.resolve v.directory ⟨name⟩ .keep

def node? (v : View) (name : Text) : Option Node := (v.find name).toOption.map (·.2)

/-- Whether a name leads anywhere, were it to a link. -/
def has (v : View) (name : Text) : Bool := v.entry name matches .ok (.found ..)

def namesIn (v : View) (directory : Text) : List Text :=
  match v.node? directory with
  | some node => if v.files.mayRead node then node.children.map (·.1) else []
  | none => []

end View

/-- What a node that stands for something open really is. -/
def System.behind (s : System) : Node → Node
  | .handle file target =>
    match s.opened[file]? with
    | some f =>
      match f.source with
      | .stored id => .file id
      | .made content => .made fun _ => content
      | .device d => .device d
      | .directory id => .directory id []
      | .stream n =>
        if (s.stream n).kind == .terminal then .device .terminal else .pipe s.files.inodes.size n
    | none => .handle file target
  | node => node

namespace Activity

def files : Activity FileSystem := fun p s => .done (s.view p) s

def view : Activity View := fun p s =>
  .done { files := s.view p, directory := ((s.process? p).map Process.directory).getD [] } s

/-- Looks a path up, and says what it leads to through every link. -/
def find (name : Text) : Activity (Except IoError (Location × Node)) := do
  return (← view).find name

/-- Looks a path up; a link as the last name is not followed. -/
def entry (name : Text) : Activity (Except IoError Resolved) := do
  return (← view).entry name

def changeFiles {α : Type} (f : FileSystem → Location → Except IoError (α × FileSystem)) :
    Activity (Except IoError α) := fun p s =>
  let directory := ((s.process? p).map Process.directory).getD []
  match f (s.view p) directory with
  | .error cause => .done (.error cause) s
  | .ok (a, files) => .done (.ok a) (s.accept files)

def holdNew (file : OpenFile) : Activity Nat := do
  hold (← update (System.addFile · file))

/-- Opens an end of a named pipe, and waits until somebody has opened the other one. -/
def openPipe (stream : Nat) (access : Access) (path : Path) : Activity Nat := do
  let before := (← system).stream stream
  let descriptor ← holdNew
    { source := .stream stream, mayRead := access.reads, mayWrite := access.writes, path }
  change (System.modifyStream · stream fun s =>
    { s with
      readersEver := s.readersEver + (if access.reads then 1 else 0)
      writersEver := s.writersEver + (if access.writes then 1 else 0) })
  match access with
  | .both => return descriptor
  | .read =>
    await { ready := fun s =>
      s.isHeld stream true || before.writersEver < (s.stream stream).writersEver }
    return descriptor
  | .write _ =>
    await { ready := fun s =>
      s.isHeld stream false || before.readersEver < (s.stream stream).readersEver }
    return descriptor

/-- Opens what a node stands for, and gives a descriptor for it. -/
def openNode (node : Node) (access : Access) (path : Path) : Activity (Except IoError Nat) := do
  let append := access == .write true
  let new (source : Source) : Activity (Except IoError Nat) := do
    return .ok (← holdNew
      { source, append, mayRead := access.reads, mayWrite := access.writes, path })
  match node with
  | .file id => new (.stored id)
  | .made content => new (.made (content ()))
  | .directory id _ => if access.writes then return .error (.os .isDirectory) else new (.directory id)
  | .pipe _ stream => return .ok (← openPipe stream access path)
  | .device .terminal =>
    match (← system).terminal with
    | some stream => new (.stream stream)
    | none => return .error (.os .noDevice)
  | .device d => new (.device d)
  | .handle file target =>
    match (← system).opened[file]? with
    | some f => return .ok (← holdNew
        { f with append, offset := 0, mayRead := access.reads, mayWrite := access.writes,
                 path := target })
    | none => return .error (.os .noEntry)
  | .link _ => return .error (.os .tooManyLinks)

def shownPath (location : Location) (node : Node) : Path :=
  match node with
  | .handle _ target => target
  | _ => location.path

/-- Opens a file for reading, and gives a descriptor for it. -/
def openForReading (name : Text) : Activity (Except IoError Nat) := do
  match ← find name with
  | .error cause => return .error cause
  | .ok (location, node) =>
    if !(← files).mayRead node then return .error (.os .accessDenied)
    openNode node .read (shownPath location node)

/-- Whether a file is the program of a running process. -/
def isRunning (s : System) (id : FileId) : Bool :=
  FileSystem.isProgram (s.files.inode id).content && s.processes.any fun p =>
    match s.files.open? [] p.program with
    | .ok (_, .file other) => other == id
    | _ => false

/-- Opens a file for writing, and gives a descriptor for it. Where there is none one is made; what
it holds is kept only if something is to be added to it. -/
def openForWriting (name : Text) (access : Access) : Activity (Except IoError Nat) := do
  let mask := (← self).mask
  let mode := 0o666 &&& (0o777 ^^^ mask)
  match ← changeFiles fun files here => files.create here ⟨name⟩ mode with
  | .error cause => return .error cause
  | .ok node =>
    let location := match ← find name with
      | .ok (location, _) => location
      | .error _ => []
    match node with
    | .file id =>
      if isRunning (← system) id then return .error (.os .textFileBusy)
      if access == .write false then
        change fun s => { s with files := s.files.setContent id [] }
      openNode node access (shownPath location node)
    | .handle file _ =>
      match access, ((← system).opened[file]?).map OpenFile.source with
      | .write false, some (.stored id) =>
        change fun s => { s with files := s.files.setContent id [] }
        openNode node access (shownPath location node)
      | _, _ => openNode node access (shownPath location node)
    | node => openNode node access (shownPath location node)

def content (name : Text) : Activity (Except IoError Text) := do
  match ← openForReading name with
  | .error cause => return .error cause
  | .ok descriptor =>
    let t ← drain descriptor
    close descriptor
    return match t with
      | .ok t => .ok t
      | .error errno => .error (.os errno)

end Activity
end LineShell
