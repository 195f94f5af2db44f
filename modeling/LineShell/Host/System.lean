import LineShell.Host.Process
import LineShell.Host.Stream

/-!
The system as running programs see it: files, what is open, and processes whose descriptors refer to
what is open.
-/
namespace LineShell

/-- Where the bytes of an open file come from and go to. -/
inductive Source
  | stream (number : Nat)
  | stored (id : FileId)
  | made (content : Bytes)
  | device (d : Device)
  | directory (id : FileId)

structure OpenFile where
  source : Source
  /-- Where the next byte of a stored file is read or written. -/
  offset : Nat := 0
  /-- Whether writing always goes to the end. -/
  append : Bool := false
  mayRead : Bool := true
  mayWrite : Bool := true
  /-- The path that it was opened by. -/
  path : Path := ⟨[]⟩

structure System where
  files : FileSystem := {}
  /-- All that was ever opened, by number. -/
  opened : Array OpenFile := #[]
  streams : Array Stream := #[]
  processes : List Process := []
  /-- The number for the next process. -/
  nextProcess : Nat := 2
  /-- The stream of the terminal, if there is one. -/
  terminal : Option Nat := none
  /-- When it is somebody else's turn. -/
  turnEnd : Nat := 0

namespace System

/-! ### Open files -/

def addFile (s : System) (file : OpenFile) : Nat × System :=
  (s.opened.size, { s with opened := s.opened.push file })

def addStream (s : System) (stream : Stream) : Nat × System :=
  (s.streams.size, { s with streams := s.streams.push stream })

def modifyFile (s : System) (file : Nat) (f : OpenFile → OpenFile) : System :=
  { s with opened := s.opened.modify file f }

def modifyStream (s : System) (number : Nat) (f : Stream → Stream) : System :=
  { s with streams := s.streams.modify number f }

/-- A stream; an empty one if there is none of this number. -/
def stream (s : System) (number : Nat) : Stream := s.streams[number]?.getD {}

/-- A new stream with an open file for each of its ends: the one that is read and the one that is
written to. -/
def addPipe (s : System) (stream : Stream) : Nat × Nat × System :=
  let (number, s) := s.addStream stream
  let (input, s) := s.addFile { source := .stream number, mayWrite := false }
  let (output, s) := s.addFile { source := .stream number, mayRead := false }
  (input, output, s)

/-- The open file that a descriptor of a process refers to. -/
def file? (s : System) (p : Process) (descriptor : Nat) : Option OpenFile :=
  (p.descriptors.lookup descriptor).bind (s.opened[·]?)

/-- Whether an open file is an end of a stream: the one that is written to, or the one that is
read. -/
def isEnd (s : System) (number : Nat) (writes : Bool) (file : Nat) : Bool :=
  match s.opened[file]? with
  | some f =>
    (match f.source with
      | .stream n => n == number
      | _ => false) && (if writes then f.mayWrite else f.mayRead)
  | none => false

def isHeld (s : System) (number : Nat) (writes : Bool) : Bool :=
  s.processes.any fun p => p.descriptors.any fun (_, file) => s.isEnd number writes file

def hasReader (s : System) (number : Nat) : Bool :=
  (s.stream number).kind != .pipe || s.isHeld number false

/-- Whether a descriptor of a process leads to the terminal. -/
def isTerminal (s : System) (p : Process) (descriptor : Nat) : Bool :=
  (s.file? p descriptor).any fun f =>
    match f.source with
    | .stream n => (s.stream n).kind == .terminal
    | _ => false

/-! ### Processes -/

def process? (s : System) (id : Nat) : Option Process := s.processes.find? (·.id == id)

def modifyProcess (s : System) (id : Nat) (f : Process → Process) : System :=
  { s with processes := s.processes.map fun p => if p.id = id then f p else p }

/-- Adds a copy of a process, with a number of its own. -/
def addProcess (s : System) (p : Process) : Nat × System :=
  let id := s.nextProcess
  let child := { p with id, parent := p.id, pending := [], ended := none }
  (id, { s with nextProcess := id + 1, processes := s.processes ++ [child] })

def removeProcess (s : System) (id : Nat) : System :=
  { s with processes := s.processes.filter (·.id != id) }

/-- Sends a signal; there has to be a process for it. -/
def signal (s : System) (id number : Nat) : Option System :=
  match s.process? id with
  | none => none
  | some p =>
    if number = 0 ∨ p.ended.isSome ∨ (p.ignored.contains number ∧ number ≠ 9) then some s
    else some (s.modifyProcess id fun p => { p with pending := p.pending ++ [number] })

/-- Takes the signals that a process has been sent. -/
def takeSignals (s : System) (id : Nat) : List Nat × System :=
  (((s.process? id).map Process.pending).getD [],
    s.modifyProcess id ({ · with pending := [] }))

def isAlive (s : System) (id : Nat) : Bool :=
  (s.process? id).any (·.ended.isNone)

/-- How a process has ended; one that nobody knows has ended well. -/
def ending? (s : System) (id : Nat) : Option Ending :=
  match s.process? id with
  | some p => p.ended
  | none => some (.exited 0)

/-- The processes that a process has started, and those that they have started, and so on; `fuel`
bounds the number of generations. -/
def descendants (s : System) : Nat → Nat → List Nat
  | 0, _ => []
  | fuel + 1, id =>
    (s.processes.filter (·.parent == id)).flatMap fun p => p.id :: s.descendants fuel p.id

/-- Tells the parent of a process that it has ended, if the parent cares. -/
def tellParent (s : System) (id : Nat) : System :=
  match s.process? id with
  | none => s
  | some child => s.modifyProcess child.parent fun p =>
    if p.caught.contains 17 ∧ !p.pending.contains 17 then { p with pending := p.pending ++ [17] }
    else p

/-- A process has ended. Its descriptors are closed, and nobody asks any more for those it has
started that have ended. -/
def endProcess (s : System) (id : Nat) (ending : Ending) : System :=
  let s := (s.tellParent id).modifyProcess id ({ · with ended := some ending, descriptors := [] })
  let processes := s.processes.filter fun p => !(p.parent == id && p.ended.isSome)
  let processes := processes.map fun p => if p.parent = id then { p with parent := 1 } else p
  let orphaned := (processes.find? (·.id == id)).any fun p =>
    !processes.any fun q => q.id == p.parent && q.ended.isNone
  { s with processes := if orphaned then processes.filter (·.id != id) else processes }

/-! ### Reading and writing -/

/-- The bytes of a file that is open, and how many there are. -/
def content (s : System) : Source → Bytes
  | .stored id => (s.files.inode id).content
  | .made content => content
  | _ => []

/-- Whether a read would give something at once, if only that the input has ended. -/
def mayPull (s : System) (file : Nat) : Bool :=
  match s.opened[file]? with
  | some { source := .stream n, .. } =>
    (s.stream n).kind == .terminal || 0 < (s.stream n).size || !s.isHeld n true
  | _ => true

def pull (s : System) (file limit : Nat) : Except Errno Bytes × System :=
  match s.opened[file]? with
  | none => (.error .badDescriptor, s)
  | some f =>
    if !f.mayRead then (.error .badDescriptor, s)
    else
      match f.source with
      | .stream n =>
        let (bytes, stream) := (s.stream n).pull limit
        (.ok bytes, s.modifyStream n fun _ => stream)
      | .directory _ => (.error .isDirectory, s)
      | .device .zero => (.ok (List.replicate (min limit 65536) 0), s)
      | .device .full => (.ok (List.replicate (min limit 65536) 0), s)
      | .device _ => (.ok [], s)
      | source =>
        let bytes := ((s.content source).drop f.offset).take limit
        (.ok bytes, s.modifyFile file ({ · with offset := f.offset + bytes.length }))

/-- Writes bytes into a file or a stream, whatever room there is, and says what prevented it. -/
def push (s : System) (file : Nat) (bytes : Bytes) : Option Errno × System :=
  match s.opened[file]? with
  | none => (some .badDescriptor, s)
  | some f =>
    if !f.mayWrite then (some .badDescriptor, s)
    else
      match f.source with
      | .stream n => (none, s.modifyStream n (Stream.push · bytes))
      | .device .full => (if bytes = [] then none else some .noSpace, s)
      | .stored id =>
        let old := (s.files.inode id).content
        let offset := if f.append then old.length else f.offset
        let new :=
          if offset = old.length then old ++ bytes
          else
            let gap := List.replicate (offset - old.length) 0
            old.take offset ++ gap ++ bytes ++ old.drop (offset + bytes.length)
        (none, { s with files := s.files.setContent id new }.modifyFile file
          ({ · with offset := offset + bytes.length }))
      | _ => (none, s)

/-! ### Places -/

/-- Everything below one location is now below another, those who are in it too. -/
def relocate (s : System) (here there : Location) : System :=
  { s with processes := s.processes.map fun p =>
      if here.isPrefixOf p.directory then
        { p with directory := there ++ p.directory.drop here.length }
      else p }

/-- A directory has been removed, and those who are in it stay there. -/
def strand (s : System) (here : Location) : System :=
  { s with processes := s.processes.map fun p =>
      if here.isPrefixOf p.directory ∧ !p.directory.isGone then
        { p with directory := p.directory ++ [[]] }
      else p }

end System
end LineShell
