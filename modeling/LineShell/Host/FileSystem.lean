import LineShell.Host.Errno
import LineShell.Host.Path

/-!
A file system: a tree of names, and inodes that keep what belongs to a file whatever its names are.
Paths are resolved name by name; a symbolic link puts the names of its target in its place, and no
more than 40 links are followed on the way. Everything belongs to the one who asks, so the
permissions of an owner decide what may be done, and nothing overrides them.
-/
namespace LineShell

/-- Files that keep nothing of what is written to them. -/
inductive Device
  | null
  /-- Nothing but zeros can be read from it. -/
  | zero
  /-- Has no room for anything. -/
  | full
  /-- The terminal that typed input comes from. -/
  | terminal
  deriving DecidableEq, Repr

abbrev FileId := Nat

inductive Node
  | file (id : FileId)
  | directory (id : FileId) (children : List (Text × Node))
  | link (target : Path)
  | device (device : Device)
  /-- A named pipe, with the number of its stream. -/
  | pipe (id : FileId) (stream : Nat)
  /-- A text that is made when it is read. -/
  | made (content : Unit → Bytes)
  /-- Stands for what is open under this number. -/
  | handle (file : Nat) (target : Path)

/-- What is kept of a file or a directory. Permission bits are those of `chmod`. -/
structure Inode where
  mode : Nat
  content : Bytes := []
  /-- When the content last changed, in nanoseconds. -/
  modified : Nat := 0

/-- Why an operation on files or programs fails. -/
inductive IoError
  | os (errno : Errno)
  | invalidUtf8
  | nulInFileName
  | nulInArgument
  deriving DecidableEq, Repr

def IoError.message : IoError → Text
  | .os errno => errno.message
  | .invalidUtf8 => "stream did not contain valid UTF-8".toList
  | .nulInFileName => "file name contained an unexpected NUL byte".toList
  | .nulInArgument => "nul byte found in provided data".toList

/-- The names that lead from the root to a node, none of them a link. An empty name at the end marks
a directory that has been removed. -/
abbrev Location := List Text

namespace Location

/-- Whether a directory has been removed from its place. -/
def isGone (here : Location) : Bool := here.getLast? == some []

def parent (here : Location) : Location :=
  if here.isGone then here.dropLast.dropLast else here.dropLast

def path (here : Location) : Path := .ofNames here

end Location

namespace Node

def isFile : Node → Bool
  | .file _ | .made _ => true
  | _ => false

def isDirectory : Node → Bool
  | .directory .. => true
  | _ => false

def isLink : Node → Bool
  | .link _ | .handle .. => true
  | _ => false

def children : Node → List (Text × Node)
  | .directory _ children => children
  | _ => []

def id? : Node → Option FileId
  | .file id | .directory id _ | .pipe id _ => some id
  | _ => none

/-- The node that these names lead to, links not followed. -/
def at? : Node → Location → Option Node
  | node, [] => some node
  | .directory _ children, name :: rest =>
    match children.lookup name with
    | some child => child.at? rest
    | none => none
  | _, _ :: _ => none

mutual

/-- How many names inside a node lead to the file of a number. -/
def namesOf (id : FileId) : Node → Nat
  | .file other => if other = id then 1 else 0
  | .directory _ children => namesAmong id children
  | _ => 0

/-- How many names among children and inside them lead to the file of a number. -/
def namesAmong (id : FileId) : List (Text × Node) → Nat
  | [] => 0
  | (_, child) :: rest => child.namesOf id + namesAmong id rest

end

/-- Children with the one of this name changed: taken out, replaced in its place, or put at the
end. -/
def alterChild (name : Text) (change : Option Node → Option Node) :
    List (Text × Node) → List (Text × Node)
  | [] => ((change none).map (name, ·)).toList
  | (key, child) :: rest =>
    if key = name then ((change (some child)).map (name, ·)).toList ++ rest
    else (key, child) :: alterChild name change rest

/-- Changes what stands at a location inside a directory; elsewhere nothing changes. -/
def alter (change : Option Node → Option Node) : Location → Node → Node
  | [name], .directory id children => .directory id (alterChild name change children)
  | name :: rest, .directory id children =>
    .directory id (alterChild name (·.map (alter change rest)) children)
  | _, node => node

end Node

/-- What is done about the last name of a path. -/
inductive Last
  /-- A link is followed. -/
  | follow
  /-- A link is what is asked for. -/
  | keep
  /-- A link is followed, and a file is made where there is none. -/
  | create
  deriving DecidableEq, Repr

inductive Resolved
  | found (location : Location) (node : Node)
  /-- Only the last name is missing, and its directory is there. -/
  | vacant (location : Location)

structure FileSystem where
  root : Node := .directory 0 []
  inodes : Array Inode := #[{ mode := 0o755 }]
  /-- The time, in nanoseconds. -/
  now : Nat := 0
  /-- How many bytes of a file can be written, and why no more. -/
  limit : Option (Nat × Errno) := none

namespace FileSystem

def linkLimit : Nat := 40

def nameLimit : Nat := 255

def pathLimit : Nat := 4096

/-- The inode of a number; for one that is not used, one that is empty. -/
def inode (fs : FileSystem) (id : FileId) : Inode := fs.inodes[id]?.getD { mode := 0o600 }

def mode (fs : FileSystem) : Node → Nat
  | .file id | .directory id _ | .pipe id _ => (fs.inode id).mode
  | .link _ | .handle .. => 0o777
  | .device _ => 0o666
  | .made _ => 0o444

/-- Whether the one who asks has the permission of this bit, which is an owner's. -/
def allows (fs : FileSystem) (node : Node) (bit : Nat) : Bool := fs.mode node &&& bit != 0

def mayRead (fs : FileSystem) (node : Node) : Bool := fs.allows node 0o400

def mayWrite (fs : FileSystem) (node : Node) : Bool := fs.allows node 0o200

/-- To execute a directory is to look a name up in it. -/
def mayExecute (fs : FileSystem) (node : Node) : Bool := fs.allows node 0o100

def size (fs : FileSystem) : Node → Nat
  | .file id => (fs.inode id).content.length
  | .directory .. => 4096
  | .link target => target.octets.length
  | .handle .. => 64
  | _ => 0

def linkCount (fs : FileSystem) (id : FileId) : Nat := fs.root.namesOf id

def modified (fs : FileSystem) (node : Node) : Nat :=
  match node.id? with
  | some id => (fs.inode id).modified
  | none => fs.now

/-- Any of the three execute bits makes a file executable. -/
def isRunnable (fs : FileSystem) (node : Node) : Bool :=
  node.isFile && fs.mode node &&& 0o111 != 0

/-- The node at a location. A directory that has been removed is still there for those in it, and
empty. -/
def node? (fs : FileSystem) (here : Location) : Option Node :=
  if here.isGone then some (.directory 0 []) else fs.root.at? here

/-- Follows names from a location, up to the first link, which `follow` goes on behind. A slash
behind the last name asks for a directory, so no file can be made under it. -/
def walkWith (fs : FileSystem) (last : Last)
    (follow : Location → List Text → Except Errno Resolved) (here : Location) :
    List Text → Except Errno Resolved
  | [] =>
    match fs.node? here with
    | some node => .ok (.found here node)
    | none => .error .noEntry
  | name :: rest =>
    if name = [] then fs.walkWith last follow here rest
    else if !(fs.node? here).any fs.mayExecute then .error .accessDenied
    else if name = ['.'] then fs.walkWith last follow here rest
    else if name = ['.', '.'] then fs.walkWith last follow here.parent rest
    else if here.isGone then .error .noEntry
    else if last = .create ∧ rest ≠ [] ∧ rest.all (· == []) then .error .isDirectory
    else if nameLimit < name.length then .error .nameTooLong
    else
      let there := here ++ [name]
      match fs.root.at? there with
      | none => if rest = [] then .ok (.vacant there) else .error .noEntry
      | some (.directory ..) => fs.walkWith last follow there rest
      | some (.link target) =>
        if rest = [] ∧ last = .keep then .ok (.found there (.link target))
        else follow (if target.isAbsolute then [] else here) (target.names ++ rest)
      | some node => if rest = [] then .ok (.found there node) else .error .notDirectory

/-- Follows names from a location, and no more than so many links on the way. -/
def walk (fs : FileSystem) (last : Last) : Nat → Location → List Text → Except Errno Resolved
  | 0 => fs.walkWith last fun _ _ => .error .tooManyLinks
  | links + 1 => fs.walkWith last (fs.walk last links)

def resolve (fs : FileSystem) (base : Location) (p : Path) (last : Last) :
    Except IoError Resolved :=
  if p.octets.contains '\x00' then .error .nulInFileName
  else if p.octets = [] then .error (.os .noEntry)
  else if pathLimit ≤ p.octets.length then .error (.os .nameTooLong)
  else
    match fs.walk last linkLimit (if p.isAbsolute then [] else base) p.names with
    | .ok resolved => .ok resolved
    | .error errno => .error (.os errno)

def open? (fs : FileSystem) (base : Location) (p : Path) : Except IoError (Location × Node) :=
  match fs.resolve base p .follow with
  | .ok (.found location node) => .ok (location, node)
  | .ok (.vacant _) => .error (.os .noEntry)
  | .error e => .error e

/-- The location of the directory that the path leads to, if it leads to one. -/
def directory? (fs : FileSystem) (base : Location) (p : Path) : Option Location :=
  match fs.open? base p with
  | .ok (location, .directory ..) => some location
  | _ => none

/-- Whether what stands behind a name asks for a directory: a slash at the end, a dot behind it, or
two dots anywhere before the next proper name. -/
def asksForDirectory : List Text → Bool
  | [] => false
  | [[]] | [['.']] | ['.', '.'] :: _ => true
  | [] :: rest | ['.'] :: rest => asksForDirectory rest
  | _ => false

/-- Follows names from a location by looking each of them up; two dots go back to where the last
name was looked up, whatever it may be searched for. -/
def trace (fs : FileSystem) (links : Nat) (here : Location) : List Text → Except Errno Location
  | [] => .ok here
  | name :: rest =>
    if name = [] ∨ name = ['.'] then fs.trace links here rest
    else if name = ['.', '.'] then fs.trace links here.parent rest
    else
      let there := here ++ [name]
      if nameLimit < name.length ∨ pathLimit ≤ (Path.ofNames there).octets.length then
        .error .nameTooLong
      else if !(fs.node? here).any fs.mayExecute then .error .accessDenied
      else
        match fs.root.at? there with
        | none => .error .noEntry
        | some (.link target) =>
          match links with
          | 0 => .error .tooManyLinks
          | links + 1 =>
            fs.trace links (if target.isAbsolute then [] else here) (target.names ++ rest)
        | some node =>
          if asksForDirectory rest ∧ !node.isDirectory then .error .notDirectory
          else fs.trace links there rest
termination_by names => (links, names.length)

/-- The location of the directory that a path leads to, without links or dots on the way. Only the
path of the result has to be short. -/
def canonical? (fs : FileSystem) (base : Location) (p : Path) : Option Location :=
  if p.octets = [] ∨ p.octets.contains '\x00' then none
  else
    match fs.trace linkLimit (if p.isAbsolute then [] else base) p.names with
    | .ok here =>
      if !here.isGone && (fs.node? here).any Node.isDirectory then some here else none
    | .error _ => none

def isFile (fs : FileSystem) (base : Location) (p : Path) : Bool :=
  match fs.open? base p with
  | .ok (_, node) => node.isFile
  | .error _ => false

/-- Whether a path leads to a file that may be run. -/
def isExecutable (fs : FileSystem) (base : Location) (p : Path) : Bool :=
  match fs.open? base p with
  | .ok (_, node) => fs.isRunnable node
  | .error _ => false

/-- The bytes of a node. A directory opens, and cannot be read. -/
def readNode (fs : FileSystem) (node : Node) : Except IoError Bytes :=
  if !fs.mayRead node then .error (.os .accessDenied)
  else
    match node with
    | .file id => .ok (fs.inode id).content
    | .made content => .ok (content ())
    | .directory .. => .error (.os .isDirectory)
    | _ => .ok []

def read (fs : FileSystem) (base : Location) (p : Path) : Except IoError Bytes :=
  match fs.open? base p with
  | .ok (_, node) => fs.readNode node
  | .error e => .error e

/-! ### Changes -/

def modifyInode (fs : FileSystem) (id : FileId) (f : Inode → Inode) : FileSystem :=
  { fs with inodes := fs.inodes.modify id f }

def setContent (fs : FileSystem) (id : FileId) (content : Bytes) : FileSystem :=
  fs.modifyInode id ({ · with content, modified := fs.now })

def addInode (fs : FileSystem) (mode : Nat) (content : Bytes) : FileId × FileSystem :=
  (fs.inodes.size, { fs with inodes := fs.inodes.push { mode, content, modified := fs.now } })

def touchDirectory (fs : FileSystem) (location : Location) : FileSystem :=
  match fs.root.at? location with
  | some (.directory id _) => fs.modifyInode id ({ · with modified := fs.now })
  | _ => fs

/-- Puts a node at a location whose directory is there. -/
def put (fs : FileSystem) (location : Location) (node : Node) : FileSystem :=
  { fs with root := fs.root.alter (fun _ => some node) location }.touchDirectory location.dropLast

def erase (fs : FileSystem) (location : Location) : FileSystem :=
  { fs with root := fs.root.alter (fun _ => none) location }.touchDirectory location.dropLast

/-- Puts a new file at a location whose directory is there. -/
def putFile (fs : FileSystem) (location : Location) (mode : Nat) (content : Bytes) :
    FileId × FileSystem :=
  let (id, fs) := fs.addInode mode content
  (id, fs.put location (.file id))

/-- Puts a new directory at a location whose directory is there. -/
def putDirectory (fs : FileSystem) (location : Location) (mode : Nat) : FileSystem :=
  let (id, fs) := fs.addInode mode []
  fs.put location (.directory id [])

/-- Whether names may be added to and taken from the directory that a location is in. -/
def mayChange (fs : FileSystem) (location : Location) : Bool :=
  (fs.root.at? location.dropLast).any fun node => fs.mayWrite node && fs.mayExecute node

/-- The first bytes of a program that the host itself runs. -/
def programMark : Bytes := [0x7F, 0x45, 0x4C, 0x46]

/-- Whether these bytes are a program that the host itself runs. -/
def isProgram (content : Bytes) : Bool := programMark.isPrefixOf content

/-- Finds the file to write to, and makes an empty one where there is none. A link with a missing
target has the target made. -/
def create (fs : FileSystem) (base : Location) (p : Path) (mode : Nat) :
    Except IoError (Node × FileSystem) :=
  match fs.resolve base p .create with
  | .error e => .error e
  | .ok (.vacant location) =>
    if fs.mayChange location then
      let (id, fs) := fs.putFile location mode []
      .ok (.file id, fs)
    else .error (.os .accessDenied)
  | .ok (.found _ node) =>
    if node.isDirectory then .error (.os .isDirectory)
    else if fs.mayWrite node then .ok (node, fs)
    else .error (.os .accessDenied)

/-- Writes a file anew, as far as there is room for it. -/
def rewrite (fs : FileSystem) (id : FileId) (content : Bytes) : Except IoError Unit × FileSystem :=
  match fs.limit with
  | none => (.ok (), fs.setContent id content)
  | some (room, errno) =>
    (if content.length ≤ room then .ok () else .error (.os errno),
      fs.setContent id (content.take room))

/-- Writes a whole file. A file that is there keeps its permissions, and what it held is gone once
it has been opened, whether or not all can be written. -/
def write (fs : FileSystem) (base : Location) (p : Path) (content : Bytes) :
    Except IoError Unit × FileSystem :=
  match fs.create base p 0o644 with
  | .error e => (.error e, fs)
  | .ok (.file id, fs) => fs.rewrite id content
  | .ok (.device .full, fs) => (if content = [] then .ok () else .error (.os .noSpace), fs)
  | .ok (_, fs) => (.ok (), fs)

/-- Makes the directories on the way to a location that are not there yet. -/
def makeDirectories (fs : FileSystem) (location : Location) : FileSystem :=
  (List.range location.length).foldl (fun fs n =>
    let here := location.take (n + 1)
    match fs.root.at? here with
    | some _ => fs
    | none => fs.putDirectory here 0o755) fs

/-- Changes the permission bits of a file or a directory. -/
def setMode (fs : FileSystem) (node : Node) (mode : Nat) : FileSystem :=
  match node.id? with
  | some id => fs.modifyInode id ({ · with mode })
  | none => fs

end FileSystem
end LineShell
