import LineShell.Host.Utility.Words

/-! Programs that run other programs. -/
namespace LineShell.Utility

/-- Starts a command as a process of its own, and gives the number of that. When it cannot be
started, `explain` says so and gives the status. -/
def launch (start : Script.Start) (command : List Text) (explain : IoError → Tool Nat) :
    Tool Nat := do
  Tool.flush
  let environment := (← Tool.process).environment
  Tool.act <| Activity.fork <| Tool.finish 125 do
    explain (← startCommand start environment command)

/-- The status that tells why a command could not be started. -/
def startFailure (cause : IoError) : Nat := if cause = .os .noEntry then 127 else 126

def explainStart (what : String) (command : List Text) (cause : IoError) : Tool Nat := do
  Tool.complain (what.toList ++ quotePlainly (command.headD []) ++ ": ".toList ++ reason cause)
  return startFailure cause

/-- The status that the ending of a command stands for. -/
def statusOf : Ending → Nat
  | .exited code => code.toNat
  | .signalled n => 128 + n

/-! ### `timeout` -/

/-- Sends a signal to a process and to all that have come from it. -/
def signalFamily (id signal : Nat) : Tool Unit := do
  let s ← Tool.act .system
  for id in id :: s.descendants s.processes.length id do
    let _ ← Tool.act (.kill id signal)

/-- How a command is stopped when its time is over. -/
structure Deadline where
  /-- How long it may take, in nanoseconds; without a number there is no end. -/
  time : Option Nat
  signal : Nat := 15
  /-- So long after the signal comes one that cannot be ignored. -/
  grace : Option Nat := none
  /-- The signal goes to the command alone. -/
  alone : Bool := false
  /-- Every signal is announced. -/
  announces : Bool := false

namespace Deadline

/-- Waits for a process, at most until the time is over, and says whether it has ended. -/
def wait (d : Deadline) (id : Nat) : Tool Bool := do
  let s ← Tool.act .system
  let time := d.time.map (s.files.now + ·)
  Tool.act <| Activity.await { ready := fun s => (s.ending? id).isSome, time }
  return ((← Tool.act .system).ending? id).isSome

/-- Sends the signal to a command. One that nothing survives ends the sender too. -/
def strike (d : Deadline) (name : Text) (id : Nat) : Tool Unit := do
  if d.announces then
    Tool.complain ("sending signal ".toList ++ (Signal.name? d.signal).getD ['0'] ++
      " to command ".toList ++ quotePlainly name)
  if d.alone then
    let _ ← Tool.act (.kill id d.signal)
  else
    signalFamily id d.signal
    if d.signal = 9 then throw (.signalled 9)

/-- Waits for a command, stops it when its time is over, and says whether that was so. -/
def guard (d : Deadline) (name : Text) (id : Nat) : Tool Bool := do
  if ← d.wait id then return false
  d.strike name id
  if d.grace.isSome then
    let last := { d with time := d.grace, signal := 9 }
    if !(← last.wait id) then last.strike name id
  return true

end Deadline

def withTimeout (start : Script.Start) : Tool Nat := do
  let g ← Known.given
    { letters := "v", valued := "ks", status := 125, mixed := false
      long := [("foreground", 'F'), ("kill-after", 'k'), ("preserve-status", 'P'), ("signal", 's'),
        ("verbose", 'v')] }
  let wrong {α : Type} (message : Text) : Tool α := Tool.misuse 125 message
  let interval (t : Text) : Tool (Option Nat) := do
    if t = "infinity".toList then return none
    match interval? t with
    | some n => return if n = 0 then none else some n
    | none => wrong ("invalid time interval ".toList ++ quotePlainly t)
  let mut d : Deadline := { time := none, alone := g.has 'F', announces := g.has 'v' }
  for (c, value) in g.options do
    match c with
    | 'k' => d := { d with grace := ← interval value }
    | 's' =>
      let name := if "SIG".toList.isPrefixOf value then value.drop 3 else value
      match Signal.number? name with
      | some signal => d := { d with signal }
      | none => wrong (quotePlainly value ++ ": invalid signal".toList)
    | _ => pure ()
  match g.operands with
  | time :: name :: rest =>
    d := { d with time := ← interval time }
    let id ← launch start (name :: rest) (explainStart "failed to run command " (name :: rest))
    let isOver ← d.guard name id
    match ← Tool.act (.join id) with
    | .exited code => return if isOver ∧ !g.has 'P' then 124 else code.toNat
    | .signalled n =>
      if isOver then return if n = 9 ∨ g.has 'P' then 128 + n else 124
      throw (.signalled n)
  | _ =>
    Tool.tell ("Try '".toList ++ (← Tool.process).name ++ " --help' for more information.".toList)
    return 125

/-! ### `nice` and `nohup` -/

def expandAdjustment : List Text → List Text
  | ['-', 'n'] :: value :: rest => ['-', 'n'] :: value :: expandAdjustment rest
  | ['-', '-'] :: rest => ['-', '-'] :: rest
  | ('-' :: t) :: rest =>
    let digits := if t.head? = some '-' ∨ t.head? = some '+' then t.drop 1 else t
    if digits.head?.any Char.isDigit then ['-', 'n'] :: t :: expandAdjustment rest
    else ('-' :: t) :: expandAdjustment rest
  | arguments => arguments

def nicenessBounds : Int × Int := (-20, 19)

/-- Runs a command that gives way to others, or prints how much this one does. -/
def withNiceness (start : Script.Start) : Tool Nat := do
  let known : Known :=
    { valued := "n", status := 125, mixed := false, long := [("adjustment", 'n')] }
  let g ← known.read Known.letterLimit (expandAdjustment (← Tool.arguments)) {}
  let value := g.value? 'n'
  let adjustment ← match value with
    | none => pure 10
    | some t =>
      match integer? t with
      | some i => pure i
      | none => Tool.refuse 125 ("invalid adjustment ".toList ++ quotePlainly t)
  let old := (← Tool.process).niceness
  match g.operands with
  | [] =>
    if value.isSome then
      Tool.misuse 125 "a command must be given with an adjustment".toList
    Tool.printLine (Text.signed old)
    return 0
  | command =>
    if adjustment < 0 then
      Tool.complain "cannot set niceness: Permission denied".toList
    else
      Tool.act (.alter ({ · with niceness := min nicenessBounds.2 (old + adjustment) }))
    explainStart "" command (← startCommand start (← Tool.process).environment command)

/-- Runs a command that goes on when its terminal is hung up. -/
def withoutHangup (start : Script.Start) : Tool Nat := do
  let g ← Known.given { status := 125, mixed := false }
  match g.operands with
  | [] => Tool.misuse 125 "missing operand".toList
  | command =>
    if ← Tool.hasTerminal then
      let file : OpenFile :=
        { source := .device .null, mayRead := false, path := .ofText "/dev/null".toList }
      let number ← Tool.act (.update (System.addFile · file))
      Tool.act (.attach 0 number)
      Tool.complain "ignoring input".toList
    Tool.act (.alter fun p => { p with ignored := 1 :: p.ignored })
    explainStart "failed to run command " command
      (← startCommand start (← Tool.process).environment command)

/-! ### `time` -/

/-- What is known about a command that has run. -/
structure Spent where
  command : List Text
  ending : Ending
  /-- How long it took, in nanoseconds. -/
  time : Nat

namespace Spent

def seconds (s : Spent) : Text :=
  { precision := some 2 : Directive }.positional 2 (mkRat s.time 1000000000)

/-- Minutes and seconds, and hours if there are any. -/
def clock (s : Spent) : Text :=
  let two (n : Nat) : Text := (if n < 10 then ['0'] else []) ++ Text.decimal n
  let total := s.time / 1000000000
  let minutes := total / 60
  if 60 ≤ minutes then
    Text.decimal (minutes / 60) ++ ':' :: two (minutes % 60) ++ ':' :: two (total % 60)
  else Text.decimal minutes ++ ':' :: two (total % 60) ++ '.' :: two (s.time / 10000000 % 100)

def text (s : Spent) : Text → Text
  | '%' :: c :: rest =>
    let shown := match c with
      | '%' => ['%']
      | 'e' => s.seconds
      | 'E' => s.clock
      | 'U' | 'S' => "0.00".toList
      | 'P' => "0%".toList
      | 'C' => Text.joined [' '] s.command
      | 'x' => Text.decimal (statusOf s.ending)
      | 'Z' => "4096".toList
      | c => if "DFIKMORWXcprstwk".toList.contains c then ['0'] else ['?', c]
    shown ++ s.text rest
  | '\\' :: c :: rest =>
    let shown := match c with
      | 'n' => ['\n']
      | 't' => ['\t']
      | '\\' => ['\\']
      | c => ['?', '\\', c]
    shown ++ s.text rest
  | c :: rest => c :: s.text rest
  | [] => []

end Spent

/-- What `time` prints unless it is told otherwise. -/
def timeFormat : String :=
  "%Uuser %Ssystem %Eelapsed %PCPU (%Xavgtext+%Davgdata %Mmaxresident)k\n" ++
    "%Iinputs+%Ooutputs (%Fmajor+%Rminor)pagefaults %Wswaps"

def timeUsage : List String :=
  ["Usage: time [-apvV] [-f format] [-o file] [--append] [--verbose]",
    "       [--portability] [--format=format] [--output=file] [--version]",
    "       [--quiet] [--help] command [arg...]"]

def withTime (start : Script.Start) : Tool Nat := do
  let g ← Known.given
    { letters := "apqv", valued := "fo", mixed := false
      long := [("append", 'a'), ("portability", 'p'), ("quiet", 'q'), ("verbose", 'v'),
        ("format", 'f'), ("output", 'o')] }
  match g.operands with
  | [] =>
    for t in timeUsage do Tool.tell t.toList
    return 125
  | command =>
    let begun := (← Tool.view).files.now
    let id ← launch start command fun cause => do
      Tool.complain ("cannot run ".toList ++ command.headD [] ++ ": ".toList ++ reason cause)
      return startFailure cause
    let ending ← Tool.act (.join id)
    let s : Spent := { command, ending, time := (← Tool.view).files.now - begun }
    let note := match ending with
      | .signalled n => "Command terminated by signal ".toList ++ Text.decimal n ++ ['\n']
      | .exited 0 => []
      | .exited code =>
        "Command exited with non-zero status ".toList ++ Text.decimal code.toNat ++ ['\n']
    let format := if g.has 'p' then "real %e\nuser %U\nsys %S".toList
      else (g.value? 'f').getD timeFormat.toList
    let t := (if g.has 'q' then [] else note) ++ (s.text format).line
    match g.value? 'o' with
    | none =>
      let _ ← Tool.act (.write 2 t)
    | some name =>
      match ← Tool.act (.openForWriting name (.write (g.has 'a'))) with
      | .ok descriptor =>
        let _ ← Tool.act (.write descriptor t)
        Tool.act (.close descriptor)
      | .error cause => Tool.refuse 1 (name ++ ": ".toList ++ reason cause)
    return statusOf ending

end LineShell.Utility
