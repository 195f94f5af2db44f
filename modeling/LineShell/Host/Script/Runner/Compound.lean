import LineShell.Host.Script.Runner.Simple

/-!
Loops, choices, pipelines and the other commands that are made of commands.
-/
namespace LineShell.Script

namespace Runner

inductive Turn
  | through
  | again
  | leave

/-- How long a turn of a loop takes, in nanoseconds. -/
def turnTime : Nat := 5000

def turn (step : Step Unit) : Step Turn := fun m => do
  Activity.spend turnTime
  match ← step.run m with
  | (.ok (), m) => return (.ok .through, m)
  | (.error (.breaks n), m) =>
    return if n ≤ 1 then (.ok .leave, m) else (.error (.breaks (n - 1)), m)
  | (.error (.continues n), m) =>
    return if n ≤ 1 then (.ok .again, m) else (.error (.continues (n - 1)), m)
  | (.error stop, m) => return (.error stop, m)

def inLoop (step : Step Unit) : Step Unit := do
  let loops := (← get).loops
  Step.around (fun m => { m with loops := loops + 1 }) (fun m => { m with loops }) step

/-- Runs a body as long as success of a test is as expected. -/
def repeatWhile (r : Runner) (how : Manner) (test : Command) (expected : Bool) (body : Command) :
    Nat → Nat → Step Unit
  | 0, status => Step.setStatus status
  | n + 1, status => do
    match ← turn (r.run { tested := true } test) with
    | .leave => Step.setStatus status
    | .again => r.repeatWhile how test expected body n status
    | .through =>
      if ((← get).status == 0) != expected then Step.setStatus status
      else
        match ← turn (r.run how body) with
        | .leave => return ()
        | _ => r.repeatWhile how test expected body n (← get).status

def forEach (r : Runner) (how : Manner) (name : Text) (body : Command) : List Text → Step Unit
  | [] => return ()
  | item :: items => do
    Step.assign name item
    match ← turn (r.run how body) with
    | .leave => return ()
    | _ => r.forEach how name body items

def covered (r : Runner) (t : Text) : List Word → Step Bool
  | [] => return false
  | pattern :: rest => do
    if (← expandPattern r.substitute pattern).covers t then return true else r.covered t rest

/-- Runs the first command that has a pattern for the text. -/
def choose (r : Runner) (how : Manner) (t : Text) : List (List Word × Command) → Step Unit
  | [] => Step.setStatus 0
  | (patterns, body) :: rest => do
    if ← r.covered t patterns then
      if body matches .nothing then Step.setStatus 0 else r.run how body
    else r.choose how t rest

/-- Starts commands side by side, each reading what the one in front of it writes, and gives their
processes. `alter` is done first in each of them, and told whether that is the first one. -/
def startPipeline (r : Runner) (how : Manner) (alter : Bool → Activity Unit) :
    Option Nat → List Command → Step (List Nat)
  | _, [] => return []
  | input, command :: rest => do
    let pipe ← if rest.isEmpty then pure none else some <$> Step.perform openPipe
    let process ← r.fork do
      Step.perform (alter input.isNone)
      match pipe with
      | some (next, _) => Step.perform (.close next)
      | none => pure ()
      match input with
      | some input => Step.perform (moveDescriptor input 0)
      | none => pure ()
      match pipe with
      | some (_, output) => Step.perform (moveDescriptor output 1)
      | none => pure ()
      r.run { how with last := true } command
    match input with
    | some input => Step.perform (.close input)
    | none => pure ()
    match pipe with
    | some (_, output) => Step.perform (.close output)
    | none => pure ()
    return process :: (← r.startPipeline how alter (pipe.map (·.1)) rest)

/-- Waits for processes, in whatever order they end, and gives the ending of each. -/
def awaitAll : Nat → List Nat → List (Nat × Ending) → Step (List (Nat × Ending))
  | 0, _, ended => return ended
  | fuel + 1, waiting, ended => do
    if waiting = [] then return ended
    let hasEnded (s : System) (process : Nat) : Bool := (s.ending? process).isSome
    Step.perform (.await { ready := fun s => waiting.any (hasEnded s) })
    let s ← Step.perform .system
    let process := (waiting.find? (hasEnded s)).getD 0
    let ending ← Builtin.awaitProcess process
    Builtin.announce ending
    awaitAll fuel (waiting.filter (· != process)) ((process, ending) :: ended)

/-- Runs commands side by side and waits for them. The status is that of the last one. -/
def runPipeline (r : Runner) (how : Manner) (commands : List Command) : Step Unit := do
  let processes ← r.startPipeline how (fun _ => pure ()) none commands
  let ended ← awaitAll processes.length processes []
  let last := (processes.getLast?).bind fun process => ended.lookup process
  Step.setStatus (last.elim 0 Builtin.statusOf)

/-- The signals that a command beside the script is not to be disturbed by. -/
def quietSignals : List Nat := [2, 3]

/-- What is different for a command beside the script: the first one finds no input. -/
def stepAside (first : Bool) : Activity Unit := do
  Activity.alter fun p =>
    { p with ignored := quietSignals ++ p.ignored.filter (!quietSignals.contains ·) }
  if first then
    match ← Activity.openForReading "/dev/null".toList with
    | .ok opened => moveDescriptor opened 0
    | .error _ => Activity.close 0

def runBeside (r : Runner) (command : Command) : Step Unit := do
  let commands := match command with
    | .pipeline commands => commands
    | command => [command]
  let processes ← r.startPipeline {} stepAside none commands
  modify (Machine.addJob · processes)
  Step.setStatus 0

/-- Runs a command in a process of its own, unless the script ends behind it anyway. -/
def runSubshell (r : Runner) (how : Manner) (command : Command)
    (redirections : List Redirection) : Step Unit := do
  let body (how : Manner) :=
    withRedirections r.substitute redirections false false (r.run how command)
  if how.last ∧ (← get).traps = [] then body how
  else
    Builtin.settle (← r.runApart (body { how with last := true }))
    r.check how

def runCommand (r : Runner) (how : Manner) : Command → Step Unit
  | .nothing => return ()
  | .simple line assignments words redirections => do
    r.runSimple how line assignments words redirections
    r.check how
  | .redirected line command redirections => do
    modify ({ · with line })
    withRedirections r.substitute redirections false false (r.run how.inner command)
  | .subshell line command redirections => do
    modify ({ · with line })
    r.runSubshell how command redirections
  | .pipeline commands => do
    r.runPipeline how.inner commands
    r.check how
  | .background command => r.runBeside command
  | .sequence first second => do
    r.run how.inner first
    r.run how second
  | .and first second => do
    r.run { tested := true } first
    if (← get).status = 0 then r.run how second
  | .or first second => do
    r.run { tested := true } first
    if (← get).status ≠ 0 then r.run how second
  | .negation command => do
    r.run { tested := true } command
    Step.setStatus (if (← get).status = 0 then 1 else 0)
  | .conditional test body otherwise => do
    r.run { tested := true } test
    if (← get).status = 0 then r.run how body
    else if otherwise matches .nothing then Step.setStatus 0
    else r.run how otherwise
  | .loop test expected body =>
    inLoop (r.repeatWhile how.inner test expected body loopLimit 0)
  | .each line name items body => do
    modify ({ · with line })
    let fields ← items.mapM (expandFields r.substitute)
    if fields.flatten.isEmpty then Step.setStatus 0
    inLoop (r.forEach how.inner name body fields.flatten)
  | .choice line word choices => do
    modify ({ · with line })
    let t ← expandText r.substitute word
    r.choose how t choices
  | .define _ name body => do
    modify fun m => { m with functions := (name, body) :: m.functions.filter (·.1 != name) }
    Step.setStatus 0

/-- How deep commands may stand inside one another. -/
def depthLimit : Nat := 100000

/-- Runs commands that stand inside one another up to a depth. -/
def runWithin (start : Start) : Nat → Manner → Command → Step Unit
  | 0, _, _ => throw .failure
  | depth + 1, how, command => do
    if !(← get).has 'n' then runCommand ⟨runWithin start depth, start⟩ how command

end Runner

/-- Runs commands, and starts programs as it is told to. -/
def runner (start : Start) : Runner := ⟨Runner.runWithin start Runner.depthLimit, start⟩

end LineShell.Script
