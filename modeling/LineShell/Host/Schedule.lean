import LineShell.Host.Activity

/-!
Who runs when. Processes stand in a line; the first one that need not wait runs until it has to, and
then goes to the end of the line. When all have to wait, time passes.
-/
namespace LineShell

structure Turn where
  process : Nat
  wake : Wake
  course : System → Course

/-- A system with what its processes have still to do. -/
structure Schedule where
  system : System := {}
  turns : List Turn := []

namespace Schedule

/-- For so long nobody else is let in, in nanoseconds. -/
def turnTime : Nat := 4000000

/-- Carries a process on until it waits or ends. Those it starts come first in the line behind
it. -/
def carry (process : Nat) (turns : List Turn) : Course → Schedule
  | .ended ending s => ⟨s.endProcess process ending, turns⟩
  | .wait wake s next => ⟨s, turns ++ [⟨process, wake, next⟩]⟩
  | .fork child begin s next =>
    carry process (turns ++ [⟨child, { ready := fun _ => true }, begin⟩]) (next s)

def isReady (s : System) (t : Turn) : Bool :=
  t.wake.ready s || t.wake.time.any (· ≤ s.files.now) ||
    ((s.process? t.process).bind Process.fatalSignal?).isSome

/-- Lets the first process that is ready take its turn. -/
def takeTurn (system : System) (t : Turn) (others : List Turn) : Schedule :=
  match (system.process? t.process).bind Process.fatalSignal? with
  | some n => ⟨system.endProcess t.process (.signalled n), others⟩
  | none =>
    carry t.process others (t.course { system with turnEnd := system.files.now + turnTime })

def nextTime? (turns : List Turn) : Option Nat := (turns.filterMap (·.wake.time)).min?

/-- Lets processes take turns until something is reached, or until nobody can go on. -/
def run (reached : System → Bool) : Nat → Schedule → Schedule
  | 0, s => s
  | fuel + 1, ⟨system, turns⟩ =>
    if reached system then ⟨system, turns⟩
    else
      match turns.findIdx? (isReady system) with
      | some i =>
        match turns[i]? with
        | some t => run reached fuel (takeTurn system t (turns.eraseIdx i))
        | none => ⟨system, turns⟩
      | none =>
        match nextTime? turns with
        | some time =>
          run reached fuel ⟨{ system with files := { system.files with now := time } }, turns⟩
        | none => ⟨system, turns⟩

def turnLimit : Nat := 1000000000000

/-- Lets processes take turns until something is reached, or until nobody can go on. -/
def runUntil (s : Schedule) (reached : System → Bool) : Schedule := run reached turnLimit s

end Schedule
end LineShell
