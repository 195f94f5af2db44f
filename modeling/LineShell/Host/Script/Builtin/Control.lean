import LineShell.Host.Script.Builtin.Jobs

/-! Commands that leave loops, functions and the script, and commands on signals. -/
namespace LineShell.Script.Builtin

def exitScript (arguments : List Text) : Step Nat := do
  let m ← get
  let status ← match arguments with
    | [] => pure (m.leaving.getD m.status)
    | t :: _ => number t
  Step.setStatus (status % 256)
  throw .exit

def returnStatus (arguments : List Text) : Step Nat := do
  let status ← match arguments with
    | [] => pure (← get).status
    | t :: _ => number t
  Step.setStatus status
  throw .returns

/-- How many loops a command is to leave; there may be fewer. -/
def loopCount (arguments : List Text) : Step Nat := do
  match arguments with
  | [] => return min 1 (← get).loops
  | t :: _ =>
    let n ← number t
    if n = 0 then Step.fail ("Illegal number: ".toList ++ t) else return min n (← get).loops

def breakLoops (arguments : List Text) : Step Nat := do
  match ← loopCount arguments with
  | 0 => return 0
  | n =>
    Step.setStatus 0
    throw (.breaks n)

def continueLoops (arguments : List Text) : Step Nat := do
  match ← loopCount arguments with
  | 0 => return 0
  | n =>
    Step.setStatus 0
    throw (.continues n)

/-- The number of a signal, or 0 for the end of the script. -/
def condition? (t : Text) : Option Nat :=
  if t.map Char.toUpper = "EXIT".toList then some 0 else Signal.number? t

def conditionName (n : Nat) : Text :=
  if n = 0 then "EXIT".toList else (Signal.name? n).getD (Text.decimal n)

/-- Sets what is done about a signal, or forgets it. -/
def setTrap (signal : Nat) (action : Option Text) : Step Unit := do
  modify fun m =>
    let others := m.traps.filter (·.1 != signal)
    { m with traps := match action with
        | some action => (signal, action) :: others
        | none => others }
  if signal ≠ 0 then
    Step.perform (.alter fun p =>
      let ignored := p.ignored.filter (· != signal)
      let caught := p.caught.filter (· != signal)
      match action with
      | none => { p with ignored, caught }
      | some [] => { p with ignored := signal :: ignored, caught }
      | some _ => { p with ignored, caught := signal :: caught })

/-- Sets or removes what is done on each of some signals. -/
def setTraps (action : Option Text) : List Text → Step Nat
  | [] => return 0
  | t :: rest => do
    match condition? t with
    | none =>
      Step.tell ("trap: ".toList ++ t ++ ": bad trap".toList)
      return 1
    | some signal =>
      setTrap signal action
      setTraps action rest

/-- Lists or sets what is done when a signal comes. -/
def trap (arguments : List Text) : Step Nat := do
  let (_, operands) ← options "" arguments
  match operands with
  | [] =>
    for (signal, action) in (← get).traps.mergeSort fun a b => decide (a.1 ≤ b.1) do
      Step.printLine ("trap -- ".toList ++ quote action ++ ' ' :: conditionName signal)
    return 0
  | [t] => setTraps none [t]
  | action :: signals =>
    if (condition? action).isSome ∧ action ≠ [] ∧ action.all Char.isDigit then
      setTraps none operands
    else setTraps (if action = ['-'] then none else some action) signals

def usageOfKill {α : Type} : Step α :=
  Step.fail
    ("Usage: kill [-s sigspec | -signum | -sigspec] [pid | job]... or\n" ++
      "kill -l [exitstatus]").toList

/-- Sends a signal to each of these processes. A job is a group of processes, and there are none. -/
def signalAll (signal : Nat) : Nat → List Text → Step Nat
  | status, [] => return status
  | status, t :: rest => do
    let process ← match t with
      | '%' :: _ =>
        let _ ← jobOf t
        pure none
      | '-' :: t =>
        let _ ← number t
        pure none
      | _ => some <$> number t
    let found ← match process with
      | some process => Step.perform (.kill process signal)
      | none => pure false
    if found then signalAll signal status rest
    else
      Step.report "No such process\n".toList
      signalAll signal 1 rest

def kill (arguments : List Text) : Step Nat := do
  let quick := match arguments with
    | ('-' :: t) :: _ => Signal.number? t
    | _ => none
  match quick with
  | some signal =>
    if arguments.tail = [] then usageOfKill else signalAll signal 0 arguments.tail
  | none =>
    let (found, operands) ← readOptions ['l'] ['s'] 100 arguments
    if found.any (·.1 == 'l') then
      match operands with
      | [] =>
        Step.printLine ['0']
        for name in Signal.names do Step.printLine name
        return 0
      | t :: _ =>
        let n ← number t
        match Signal.name? (if 128 < n then n - 128 else n) with
        | some name =>
          Step.printLine name
          return 0
        | none => Step.fail ("invalid signal number or exit status: ".toList ++ t)
    else if operands = [] then usageOfKill
    else
      match found.lookup 's' with
      | none => signalAll 15 0 operands
      | some t =>
        match Signal.number? t with
        | some signal => signalAll signal 0 operands
        | none => Step.fail ("invalid signal number or name: ".toList ++ t)

/-- The time that the script has taken: none is counted. -/
def times : Step Nat := do
  Step.print "0m0.000000s 0m0.000000s\n0m0.000000s 0m0.000000s\n".toList
  return 0

end LineShell.Script.Builtin
