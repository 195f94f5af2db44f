import LineShell.Text.Basic

/-! The signals of the operating system: their names, and what they do to a program. -/
namespace LineShell.Signal

/-- The names of the signals from 1 to 31, with what is said about a program that one ended. -/
def table : List (String × String) :=
  [("HUP", "Hangup"), ("INT", "Interrupt"), ("QUIT", "Quit"), ("ILL", "Illegal instruction"),
    ("TRAP", "Trace/breakpoint trap"), ("ABRT", "Aborted"), ("BUS", "Bus error"),
    ("FPE", "Floating point exception"), ("KILL", "Killed"), ("USR1", "User defined signal 1"),
    ("SEGV", "Segmentation fault"), ("USR2", "User defined signal 2"), ("PIPE", "Broken pipe"),
    ("ALRM", "Alarm clock"), ("TERM", "Terminated"), ("16", "Stack fault"),
    ("CHLD", "Child exited"), ("CONT", "Continued"), ("STOP", "Stopped (signal)"),
    ("TSTP", "Stopped"), ("TTIN", "Stopped (tty input)"), ("TTOU", "Stopped (tty output)"),
    ("URG", "Urgent I/O condition"), ("XCPU", "CPU time limit exceeded"),
    ("XFSZ", "File size limit exceeded"), ("VTALRM", "Virtual timer expired"),
    ("PROF", "Profiling timer expired"), ("WINCH", "Window changed"), ("IO", "I/O possible"),
    ("PWR", "Power failure"), ("SYS", "Bad system call")]

/-- Signals up to this number exist; those above the table are for programs of their own. -/
def limit : Nat := 64

/-- The names of all signals from 1 on; where there is none the number stands for it. -/
def names : List Text :=
  (table.map fun (name, _) => name.toList) ++ ["32", "33"].map String.toList ++
    ("RTMIN".toList :: (List.range 15).map fun n => "RTMIN+".toList ++ Text.decimal (n + 1)) ++
    ((List.range 14).map fun n => "RTMAX-".toList ++ Text.decimal (14 - n)) ++ ["RTMAX".toList]

def name? (number : Nat) : Option Text := if number = 0 then none else names[number - 1]?

/-- The signal of a number or of a name, in whatever letters. -/
def number? (t : Text) : Option Nat :=
  match Text.natural? t with
  | some n => if n ≤ limit then some n else none
  | none => (names.findIdx? (· == t.map Char.toUpper)).map (· + 1)

/-- What is said about a program that a signal ended; nothing about the ways in which a user ends
one. -/
def message? (number : Nat) : Option Text :=
  if number = 2 ∨ number = 13 then none
  else if number = 0 then none
  else
    match table[number - 1]? with
    | some (_, text) => some text.toList
    | none => some ("Real-time signal ".toList ++ Text.decimal (number - 34))

/-- A program goes on as if these had not come, unless it asks for them. -/
def isHarmless (number : Nat) : Bool := [17, 18, 19, 20, 21, 22, 23, 28].contains number

end LineShell.Signal
