import LineShell.Host.System

/-!
What processes do. An activity runs until it has to wait for others; the system that it leaves then
goes to those, and it goes on with what they make of it.
-/
namespace LineShell

/-- What a process waits for: a state of the system, or a time. -/
structure Wake where
  ready : System → Bool
  time : Option Nat := none

/-- The rest of what a process does, as far as the next wait. -/
inductive Course
  | ended (ending : Ending) (s : System)
  | wait (wake : Wake) (s : System) (next : System → Course)
  /-- Another process begins. -/
  | fork (process : Nat) (child : System → Course) (s : System) (next : System → Course)

/-- How far an activity comes before it has to wait. -/
inductive Stage (α : Type)
  | done (a : α) (s : System)
  | ended (ending : Ending) (s : System)
  | wait (wake : Wake) (s : System) (next : System → Stage α)
  | fork (process : Nat) (child : System → Course) (s : System) (next : System → Stage α)

namespace Stage

variable {α β : Type}

def bind (f : α → System → Stage β) : Stage α → Stage β
  | .done a s => f a s
  | .ended ending s => .ended ending s
  | .wait wake s next => .wait wake s fun s => (next s).bind f
  | .fork process child s next => .fork process child s fun s => (next s).bind f

/-- The course of a process whose ending an activity gives. -/
def course : Stage Ending → Course
  | .done ending s | .ended ending s => .ended ending s
  | .wait wake s next => .wait wake s fun s => (next s).course
  | .fork process child s next => .fork process child s fun s => (next s).course

end Stage

/-- What the process of a number does to the system. -/
def Activity (α : Type) : Type := Nat → System → Stage α

instance : Monad Activity where
  pure a := fun _ s => .done a s
  bind x f := fun p s => (x p s).bind fun a s => f a p s

namespace Activity

def update {α : Type} (f : System → α × System) : Activity α := fun _ s =>
  let (a, s) := f s
  .done a s

def change (f : System → System) : Activity Unit := fun _ s => .done () (f s)

def system : Activity System := fun _ s => .done s s

def number : Activity Nat := fun p s => .done p s

def self : Activity Process := fun p s => .done ((s.process? p).getD { id := p }) s

def alter (f : Process → Process) : Activity Unit := fun p s => .done () (s.modifyProcess p f)

def halt {α : Type} (ending : Ending) : Activity α := fun _ s => .ended ending s

/-- Waits, unless what is waited for has come already. -/
def await (wake : Wake) : Activity Unit := fun _ s =>
  if wake.ready s then .done () s else .wait wake s fun s => .done () s

def yield : Activity Unit := fun _ s => .wait { ready := fun _ => true } s fun s => .done () s

/-- Spends time, in nanoseconds, and lets others run after a while. -/
def spend (time : Nat) : Activity Unit := fun _ s =>
  let now := s.files.now + time
  let s := { s with files := { s.files with now } }
  if now < s.turnEnd then .done () s
  else .wait { ready := fun _ => true } s fun s => .done () s

/-- Starts another process, a copy of this one, and gives its number. -/
def fork (child : Activity Ending) : Activity Nat := fun p s =>
  match s.process? p with
  | none => .done 0 s
  | some process =>
    let (id, s) := s.addProcess process
    .fork id (fun s => (child id s).course) s fun s => .done id s

/-- Waits for the end of a process that this one has started. -/
def join (id : Nat) : Activity Ending := do
  await { ready := fun s => (s.ending? id).isSome }
  update fun s => ((s.ending? id).getD (.exited 0), s.removeProcess id)

def sleep (time : Nat) : Activity Unit := fun _ s =>
  let wake : Wake := { ready := fun _ => false, time := some (s.files.now + time) }
  .wait wake s fun s => .done () s

def mind : Activity Unit := do
  match (← self).fatalSignal? with
  | some n => halt (.signalled n)
  | none => return ()

/-- Sends a signal, and says whether there is a process for it. -/
def kill (id signal : Nat) : Activity Bool := do
  let found ← update fun s =>
    match s.signal id signal with
    | some s => (true, s)
    | none => (false, s)
  mind
  return found

/-! ### Descriptors -/

/-- What a descriptor refers to; a number without meaning for one that is closed. -/
def fileOf (descriptor : Nat) : Activity Nat := do
  match (← self).descriptors.lookup descriptor with
  | some file => return file
  | none => return (← system).opened.size

/-- Makes the lowest free descriptor refer to something open. -/
def hold (file : Nat) : Activity Nat := do
  let descriptor := (← self).freeDescriptor 3
  alter (Process.attach · descriptor file)
  return descriptor

def attach (descriptor file : Nat) : Activity Unit := alter (Process.attach · descriptor file)

def close (descriptor : Nat) : Activity Unit := alter (Process.detach · descriptor)

def pull (descriptor limit : Nat) : Activity (Except Errno Text) := do
  let file ← fileOf descriptor
  await { ready := (System.mayPull · file) }
  let bytes ← update (System.pull · file limit)
  return bytes.map Text.ofBytes

/-- Goes back in a file that keeps its bytes, so that so many are read again; elsewhere what has
been read stays read. -/
def goBack (descriptor count : Nat) : Activity Unit := do
  let file ← fileOf descriptor
  change fun s =>
    match s.opened[file]? with
    | some { source := .stored _, offset, .. } =>
      s.modifyFile file ({ · with offset := offset - count })
    | _ => s

/-- How much is read at once by those who read everything. -/
def blockSize : Nat := 65536

/-- Reads to the end of the input, in at most `fuel` reads. -/
def drainFrom (descriptor : Nat) : Nat → List Text → Activity (Except Errno Text)
  | 0, read => return .ok read.reverse.flatten
  | fuel + 1, read => do
    match ← pull descriptor blockSize with
    | .error errno => return .error errno
    | .ok [] => return .ok read.reverse.flatten
    | .ok t => drainFrom descriptor fuel (t :: read)

def readLimit : Nat := 1000000000

def drain (descriptor : Nat) : Activity (Except Errno Text) := drainFrom descriptor readLimit []

/-- So many bytes are written to a pipe at once or not at all. -/
def pipeUnit : Nat := 4096

/-- Writes to a stream as it has room. When nobody reads it any more the process ends, or is told so
if it does not want to end. -/
def pour (file stream : Nat) : Nat → Text → Activity (Option Errno)
  | 0, _ => return none
  | fuel + 1, t => do
    if t = [] then return none
    let least := if t.length ≤ pipeUnit then t.length else 1
    await { ready := fun s => !s.hasReader stream || least ≤ (s.stream stream).room }
    let s ← system
    if !s.hasReader stream then
      let p ← self
      if !p.ignored.contains 13 then
        let _ ← kill p.id 13
      return some .brokenPipe
    let n := (s.stream stream).room
    let _ ← update (System.push · file (Text.toBytes (t.take n)))
    pour file stream fuel (t.drop n)

def writeTime : Nat := 1000

/-- Writes text through a descriptor, and says what prevented it. -/
def write (descriptor : Nat) (t : Text) : Activity (Option Errno) := do
  spend writeTime
  let file ← fileOf descriptor
  match (← system).opened[file]? with
  | some { source := .stream n, mayWrite := true, .. } => pour file n (t.length + 1) t
  | _ => update (System.push · file t.toBytes)

end Activity
end LineShell
