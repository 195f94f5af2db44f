import LineShell.Host.Call
import LineShell.Host.Start

/-! The programs of the host: utilities and scripts, which run as processes beside the shell. -/
namespace LineShell

namespace Call

/-- A NUL ends a text for the system, so none may hold one. -/
def holdsNul (c : Call) : Bool :=
  (c.path.octets :: c.directory.octets :: c.arguments ++ c.environment).any (·.contains '\x00')

/-- What the program is given as a process in a directory. -/
def environmentOctets (c : Call) : List Text := c.environment.map Text.toOctets

/-- Starts the program in place of a process that has been made for it. -/
def course (c : Call) : Activity (Except IoError Ending) :=
  start c.path.octets (c.arguments.map Text.toOctets) c.environmentOctets

/-- Whether the program can be started by a process. -/
def isReady (c : Call) (s : System) (child : Process) : Except IoError Unit :=
  let view : View := { files := s.view child.id, directory := child.directory }
  (s.load view c.environmentOctets c.path.octets (c.arguments.map Text.toOctets)).map fun _ => ()

end Call

namespace Host

/-- The directory of a call, which has to be one that can be searched. -/
def findDirectory (h : Host) (p : Path) : Except IoError Location :=
  match h.files.open? h.directory p with
  | .error cause => .error cause
  | .ok (here, node) =>
    if !node.isDirectory then .error (.os .notDirectory)
    else if !h.files.mayExecute node then .error (.os .accessDenied)
    else .ok here

/-- The process of the shell, or one that could be it. -/
def process (h : Host) : Process := (h.system.process? h.self).getD { id := h.self }

/-- Makes a process for a program, with the outputs that it is to have, and gives the streams of
these if they are its own. -/
def prepare (h : Host) (here : Location) : Nat × Option (Nat × Nat) × System :=
  let shell := h.process
  let child : Process :=
    { shell with
      directory := here
      ignored := []
      caught := []
      descriptors := shell.descriptors.filter (·.1 < 3) }
  if h.captures then
    let out := h.system.streams.size
    let (_, outFile, s) := h.system.addPipe { kind := .outlet }
    let err := s.streams.size
    let (_, errFile, s) := s.addPipe { kind := .outlet }
    let (id, s) := s.addProcess ((child.attach 1 outFile).attach 2 errFile)
    (id, some (out, err), s)
  else
    let (id, s) := h.system.addProcess child
    (id, none, s)

/-- Whether the program of a process is done: it has ended, and nobody can write any more to outputs
of its own. -/
def isDone (child : Nat) (own : Option (Nat × Nat)) (s : System) : Bool :=
  (s.ending? child).isSome && own.all fun (out, err) => !s.isHeld out true && !s.isHeld err true

/-- Takes what has been written to the outputs of the shell, or to those of a program alone. -/
def takeOutput (h : Host) (own : Option (Nat × Nat)) : Bytes × Bytes × Host :=
  let take (h : Host) : Option Nat → Bytes × Host
    | some stream => h.takeAll stream
    | none => ([], h)
  let (outStream, errStream) := match own with
    | some (out, err) => (some out, some err)
    | none => (h.stream? 1, h.stream? 2)
  let (out, h) := take h outStream
  let (err, h) := take h errStream
  (out, err, h)

/-- How a program has ended that was waited for. A signal that ends the shell ends its program as
well, and a program that can never go on is given up. -/
def endingOf (h : Host) (child : Nat) : Except IoError Ending :=
  match h.fatalSignal?, h.system.ending? child with
  | some number, _ => .ok (.signalled number)
  | none, some ending => .ok ending
  | none, none => .error (.os .deadlock)

/-- Starts a program in its directory and waits for it, unless a signal ends the shell. -/
def spawn : Programs := fun h call =>
  if call.holdsNul then .error .nulInArgument
  else
    match h.findDirectory call.directory with
    | .error cause => .error cause
    | .ok here =>
      let (id, own, s) := h.prepare here
      let child := (s.process? id).getD { id }
      match call.isReady s child with
      | .error cause => .error cause
      | .ok () =>
        let course (s : System) : Course :=
          ((do match ← call.course with
            | .ok ending => return ending
            | .error _ => return .exited 127 : Activity Ending) id s).course
        let turn : Turn := { process := id, wake := { ready := fun _ => true }, course }
        let h := { h with schedule := { system := s, turns := h.schedule.turns ++ [turn] } }
        let isKilled (s : System) : Bool := ((s.process? h.self).bind Process.fatalSignal?).isSome
        let h := h.runUntil fun s => isDone id own s || isKilled s
        let ending := h.endingOf id
        let (out, err, h) := h.takeOutput own
        .ok (ending.map ({ out, err, ending := · }),
          if h.system.isAlive id then h else h.modify (·.removeProcess id))

/-- The shell has ended, and so will those who write to its outputs: what they write until then. -/
def close (h : Host) (ending : Ending) : Bytes × Bytes × Host :=
  let streams := (h.stream? 1).bind fun out => (h.stream? 2).map fun err => (out, err)
  let h := h.modify (·.endProcess h.self ending)
  match streams with
  | none => ([], [], h)
  | some (out, err) =>
    (h.runUntil fun s => !s.isHeld out true && !s.isHeld err true).takeOutput (some (out, err))

end Host
end LineShell
