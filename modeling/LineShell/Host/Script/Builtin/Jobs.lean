import LineShell.Host.Script.Builtin.Basic
import LineShell.Host.Signal

/-! Commands that run beside the script: how they are known, listed, and waited for. -/
namespace LineShell.Script

namespace Job

def note (process : Nat) (ending : Ending) (j : Job) : Job :=
  { j with processes := j.processes.map fun (id, known) =>
      (id, if id = process then some ending else known) }

/-- Whether a job keeps its number no longer than until another one needs it. -/
def isSpare (j : Job) : Bool := j.waited && j.ending?.isSome

end Job

namespace Machine

/-- The number for another job: the lowest that is free or can be spared. -/
def claimNumber (m : Machine) : Nat × Machine :=
  let numbers := (List.range (m.jobs.length + 1)).map (· + 1)
  let isFree (n : Nat) : Bool := m.jobs.all fun j => j.number != n || j.isSpare
  let number := (numbers.find? isFree).getD 1
  (number, { m with jobs := m.jobs.filter (·.number != number) })

def addJob (m : Machine) (processes : List Nat) : Machine :=
  let (number, m) := m.claimNumber
  { m with
    jobs := { number, processes := processes.map (·, none) } :: m.jobs
    lastJob := processes.getLast? }

end Machine

namespace Builtin

def reap : Step Unit := do
  let children := (← get).jobs.flatMap fun j => j.processes.filter (·.2.isNone)
  for (process, _) in children do
    match (← Step.perform .system).ending? process with
    | none => pure ()
    | some ending =>
      Step.perform (.change (System.removeProcess · process))
      modify fun m => { m with jobs := m.jobs.map (Job.note process ending) }

def announce (ending : Ending) : Step Unit := do
  match ending with
  | .exited _ => return ()
  | .signalled n =>
    match Signal.message? n with
    | some message => Step.tell message
    | none => return ()

/-- The status that the ending of a program stands for. -/
def statusOf : Ending → Nat
  | .exited code => code.toNat
  | .signalled n => 128 + n

/-- Takes over the status of a program that has ended, and says what signal ended it. -/
def settle (ending : Ending) : Step Unit := do
  Step.setStatus (statusOf ending)
  announce ending

def jobOf (t : Text) : Step Job := do
  let jobs := (← get).jobs
  let found : Except String Job := match t.drop 1 with
    | [] | ['+'] | ['%'] => jobs.head?.elim (.error "No current job") .ok
    | ['-'] => jobs[1]?.elim (.error "No previous job") .ok
    | name =>
      match (Text.natural? name).bind fun n => jobs.find? (·.number == n) with
      | some job => .ok job
      | none => .error ("No such job: " ++ String.ofList t)
  match found with
  | .ok job => return job
  | .error message => Step.fail message.toList

/-- The column where the command of a job would be shown. -/
def jobWidth : Nat := 33

def jobState (j : Job) : Text :=
  match j.ending? with
  | none => "Running".toList
  | some (.exited 0) => "Done".toList
  | some (.exited code) => "Done(".toList ++ Text.decimal code.toNat ++ [')']
  | some (.signalled n) => (Signal.message? n).getD ((Signal.table[n - 1]?).elim [] (·.2.toList))

/-- Fills a text up to the column where commands are shown, with at least one space. -/
def padJob (t : Text) : Text := t ++ List.replicate (max 1 (jobWidth - t.length)) ' '

/-- How a job is listed; `mark` tells the last job and the one before. -/
def jobLines (detailed : Bool) (mark : Char) (j : Job) : Text :=
  let front := '[' :: Text.decimal j.number ++ "]   ".toList
  let indent := front.length
  let front := front.take (indent - 2) ++ [mark, ' ']
  let number (n : Nat) : Text := if detailed then Text.decimal n ++ [' '] else []
  let first := padJob (front ++ number ((j.processes.head?).elim 0 (·.1)) ++ jobState j)
  if !detailed then
    (first ++ (List.replicate (j.processes.length - 1) "| ".toList).flatten).line
  else
    let others := j.processes.tail.flatMap fun (process, _) =>
      let t := " |\n".toList ++ List.replicate (indent - 1) ' ' ++ [' '] ++ number process
      t ++ List.replicate (max 1 (jobWidth - (t.length - 3))) ' '
    (first ++ others).line

def jobs (arguments : List Text) : Step Nat := do
  let (letters, operands) ← options "lp" arguments
  let showJob (j : Job) : Step Unit := do
    let known := (← get).jobs
    let mark := if known.head?.any (·.number == j.number) then '+'
      else if known[1]?.any (·.number == j.number) then '-' else ' '
    if letters.getLast? = some 'p' then
      Step.printLine (Text.decimal ((j.processes.head?).elim 0 (·.1)))
    else
      Step.print (jobLines (letters.getLast? = some 'l') mark j)
      if j.ending?.isSome then
        modify fun m => { m with jobs := m.jobs.filter (·.number != j.number) }
  if operands = [] then
    reap
    for j in (← get).jobs do showJob j
  else
    for t in operands do showJob (← jobOf t)
  return 0

/-- Waits until a process that the script runs in front has ended. -/
def awaitProcess (process : Nat) : Step Ending := do
  Step.perform (.await { ready := fun s => (s.ending? process).isSome })
  reap
  Step.perform (.join process)

/-- Waits until a job has ended or a signal comes that the script deals with; then its number. -/
def awaitJob (number : Nat) : Step (Option Nat) := do
  let waiting := (((← get).jobs.find? (·.number == number)).elim [] Job.processes).filter
    (·.2.isNone)
  let self ← Step.perform .number
  let signalled (s : System) : Option Nat := (s.process? self).bind fun p =>
    p.pending.find? fun n => p.caught.contains n
  let ready (s : System) : Bool :=
    (signalled s).isSome || waiting.all fun (process, _) => (s.ending? process).isSome
  Step.perform (.await { ready })
  reap
  return signalled (← Step.perform .system)

def markWaited (number : Nat) : Step Unit := modify fun m =>
  { m with jobs := m.jobs.map fun j => if j.number = number then { j with waited := true } else j }

def waitForEach : Nat → List Text → Step Nat
  | status, [] => return status
  | _, t :: rest => do
    let job ← match t with
      | '%' :: _ => some <$> jobOf t
      | _ =>
        let process ← number t
        pure ((← get).jobs.find? (·.process == process))
    match job with
    | none => waitForEach 127 rest
    | some job =>
      let hadEnded := job.ending?.isSome
      match ← awaitJob job.number with
      | some signal => return 128 + signal
      | none =>
        markWaited job.number
        match ((← get).jobs.find? (·.number == job.number)).bind Job.ending? with
        | none => waitForEach 127 rest
        | some ending =>
          if !hadEnded then announce ending
          waitForEach (statusOf ending) rest

def waitForAll : List Nat → Step Nat
  | [] => return 0
  | number :: rest => do
    match ← awaitJob number with
    | some signal => return 128 + signal
    | none =>
      markWaited number
      waitForAll rest

def wait (arguments : List Text) : Step Nat := do
  let (_, operands) ← options "" arguments
  if operands = [] then waitForAll ((← get).jobs.map Job.number) else waitForEach 0 operands

/-- Refuses to move a job to the front or to the back. -/
def refuseControl (arguments : List Text) : Step Nat := do
  let (_, operands) ← options "" arguments
  let t := operands.headD []
  let _ ← jobOf (if t = [] then ['%'] else t)
  let shown := if t = [] then "(null)".toList else t
  Step.fail ("job ".toList ++ shown ++ " not created under job control".toList)

end Builtin
end LineShell.Script
