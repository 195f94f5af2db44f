import LineShell.Host.Script.Builtin.Control
import LineShell.Host.Script.Redirect
import LineShell.Host.Script.Runner.Basic

/-!
Processes that a script makes of itself, how a script ends, and the signals sent to it.
-/
namespace LineShell.Script.Runner

/-- What a script ends with. First what was to be done at its end is done. -/
def finish (r : Runner) (m : Machine) : Activity Ending := do
  let ended (m : Machine) : Ending := .exited (.ofNat m.status)
  match m.traps.lookup 0 with
  | none => return ended m
  | some action =>
    let status := m.status
    let m := { m with traps := m.traps.filter (·.1 != 0), leaving := some status }
    match ← (r.runText {} action).run m with
    | (.error .exit, m) => return ended m
    | (_, m) => return ended { m with status }

/-- A script as it goes on in a process of its own. -/
def forked (m : Machine) : Machine :=
  { m with traps := m.traps.filter fun (_, action) => action = [], jobs := [], leaving := none }

/-- How long it takes to make a process of a script, in nanoseconds. -/
def forkTime : Nat := 200000

/-- Runs a step as a process of its own, and gives its number. -/
def fork (r : Runner) (step : Step Unit) : Step Nat := do
  Step.perform (.spend forkTime)
  modify fun m => m.claimNumber.2
  let m ← get
  Step.perform (.fork do
    Activity.alter ({ · with caught := [] })
    let (_, after) ← step.run (forked m)
    r.finish after)

/-- Runs a step as a process of its own, and waits until it has ended. -/
def runApart (r : Runner) (step : Step Unit) : Step Ending := do
  Builtin.awaitProcess (← r.fork step)

/-- A pipe: descriptors for the end that is read and for the one that is written to. -/
def openPipe : Activity (Nat × Nat) := do
  let (input, output) ← Activity.update fun s =>
    let (input, output, s) := s.addPipe {}
    ((input, output), s)
  return (← Activity.hold input, ← Activity.hold output)

/-- Runs a script inside a word, and gives what it prints without the newlines at its end. -/
def substitute (r : Runner) : Substitute := fun command => do
  if command matches .nothing then
    modify ({ · with innerStatus := 0 })
    return []
  let m ← get
  let (input, output) ← Step.perform openPipe
  let child ← r.fork do
    Step.perform (.close input)
    Step.perform (moveDescriptor output 1)
    r.run { last := true } command
  Step.perform (.close output)
  let t ← Step.perform (.drain input)
  Step.perform (.close input)
  let ending ← Builtin.awaitProcess child
  Builtin.settle ending
  modify fun n => { n with innerStatus := n.status, status := m.status }
  let t := t.toOption.getD []
  return ((t.filter (· != '\x00')).reverse.dropWhile (· == '\n')).reverse

/-- Carries out what the signals sent to the script ask for. -/
def deliver (r : Runner) : Step Unit := do
  if !(← Step.self).pending.isEmpty then
    Step.perform .mind
    let id ← Step.perform .number
    for n in ← Step.perform (.update (System.takeSignals · id)) do
      let m ← get
      match m.traps.lookup n with
      | some [] | none => pure ()
      | some action =>
        r.runText {} action
        Step.setStatus m.status

/-- Ends the script after a failure, if it is to end then. -/
def check (r : Runner) (how : Manner) : Step Unit := do
  r.deliver
  let m ← get
  if m.has 'e' ∧ !how.tested ∧ m.status ≠ 0 then throw .exit

end LineShell.Script.Runner
