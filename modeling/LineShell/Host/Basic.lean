import LineShell.Host.Access
import LineShell.Host.Schedule

/-!
The machine around the shell: the system and what its processes have still to do. The shell is one
of the processes, and what it does itself is carried out at once.
-/
namespace LineShell

structure Host where
  schedule : Schedule := {}
  /-- The process of the shell. -/
  self : Nat := 1
  /-- Whether the shell takes what its programs write, and they do not write past it. -/
  captures : Bool := true

/-- Carries an activity of a process through. While it waits, others take their turns. -/
def Schedule.settle {α : Type} (turns : List Turn) : Stage α → Option α × Schedule
  | .done a s => (some a, ⟨s, turns⟩)
  | .ended _ s => (none, ⟨s, turns⟩)
  | .wait wake s next =>
    let later := Schedule.runUntil ⟨s, turns⟩ wake.ready
    settle later.turns (next later.system)
  | .fork child begin s next =>
    settle (turns ++ [⟨child, { ready := fun _ => true }, begin⟩]) (next s)

namespace Host

def system (h : Host) : System := h.schedule.system

def modify (h : Host) (f : System → System) : Host :=
  { h with schedule := { h.schedule with system := f h.system } }

def files (h : Host) : FileSystem := h.system.view h.self

def accept (h : Host) (files : FileSystem) : Host := h.modify (·.accept files)

/-- Where the relative paths of the shell itself start. -/
def directory (h : Host) : Location :=
  ((h.system.process? h.self).map Process.directory).getD []

/-- Lets other processes run until something is reached. -/
def runUntil (h : Host) (reached : System → Bool) : Host :=
  { h with schedule := h.schedule.runUntil reached }

def perform {α : Type} (h : Host) (activity : Activity α) : Option α × Host :=
  let (a, schedule) := Schedule.settle h.schedule.turns (activity h.self h.system)
  (a, { h with schedule })

/-- One read by the shell, of at most `limit` bytes; nothing at the end of the input. -/
def pull (h : Host) (descriptor limit : Nat) : Except Errno Bytes × Host :=
  match h.perform (Activity.pull descriptor limit) with
  | (some (.ok t), h) => (.ok t.toBytes, h)
  | (some (.error errno), h) => (.error errno, h)
  | (none, h) => (.ok [], h)

def fatalSignal? (h : Host) : Option Nat := (h.system.process? h.self).bind Process.fatalSignal?

/-- The stream that a descriptor of the shell leads to. -/
def stream? (h : Host) (descriptor : Nat) : Option Nat :=
  match (h.system.process? h.self).bind (h.system.file? · descriptor) with
  | some { source := .stream n, .. } => some n
  | _ => none

def isTerminal (h : Host) : Bool :=
  (h.system.process? h.self).any (h.system.isTerminal · 0)

/-- Takes everything that has been written to a stream. -/
def takeAll (h : Host) (stream : Nat) : Bytes × Host :=
  ((h.system.stream stream).pieces.flatten,
    h.modify (·.modifyStream stream ({ · with ready := [], fresh := [], size := 0 })))

/-! ### Beginning and end -/

/-- What the shell reads unless it is told otherwise. -/
inductive Input
  | nothing
  /-- Bytes that are all there from the start. -/
  | piped (bytes : Bytes)
  /-- Lines from a terminal; an empty piece ends the input for one reader. -/
  | typed (pieces : List Bytes)

/-- The stream and the open file that an input makes. -/
def Input.stream? : Input → Option Stream
  | .nothing => none
  | .piped bytes => some (.ofPieces .pipe [bytes])
  | .typed pieces => some (.ofPieces .terminal pieces)

def shellProgram : Path := .ofText "/opt/hsh/hsh".toList

/-- So much later than the last change of its files a host comes to life, in nanoseconds. -/
def wakeTime : Nat := 1000000000

/-- A host with these files on which a shell is about to run, as the process of a number in a
directory. -/
def boot (files : FileSystem) (directory : Location) (self : Nat) (input : Input)
    (captures : Bool) : Host :=
  let s : System :=
    { files := { files with now := files.now + wakeTime }, nextProcess := self + 1 }
  let (input, s) : Nat × System := match input.stream? with
    | none => s.addFile { source := .device .null, path := .ofText "/dev/null".toList }
    | some stream =>
      let (number, s) := s.addStream stream
      let isTyped := stream.kind == .terminal
      let s := if isTyped then { s with terminal := some number } else s
      s.addFile { source := .stream number, mayWrite := isTyped }
  let (_, out, s) := s.addPipe { kind := .outlet }
  let (_, err, s) := s.addPipe { kind := .outlet }
  let process : Process :=
    { id := self, directory, descriptors := [(0, input), (1, out), (2, err)], caught := [2]
      ignored := [13], program := shellProgram, title := "hsh".toList }
  { schedule := { system := { s with processes := [process] } }, self, captures }

end Host
end LineShell
