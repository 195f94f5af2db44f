import LineShell.Host.Script.Invocation
import LineShell.Host.Utility.Quoting
import LineShell.Host.Zone.Basic

/-! What the programs that every host has share: printing, complaints and options. -/
namespace LineShell.Utility

/-- What a program has printed and not yet written. -/
structure Desk where
  /-- The last text comes first. -/
  printed : List Text := []
  /-- How many bytes these are. -/
  size : Nat := 0
  /-- A write has failed. -/
  lost : Option Errno := none
  /-- The status to end with if nothing worse happens. -/
  status : Nat := 0

abbrev Tool := ExceptT Ending (StateT Desk Activity)

def isWhite (c : Char) : Bool := c == ' ' || ('\t' ≤ c && c ≤ '\r')

def sizeOf? (t : Text) : Option Nat :=
  let digits := t.takeWhile Char.isDigit
  let factor? := match String.ofList (t.drop digits.length) with
    | "" => some 1
    | "K" | "KiB" | "k" => some 1024
    | "KB" | "kB" => some 1000
    | "M" | "MiB" | "m" => some (Nat.pow 1024 2)
    | "MB" => some (Nat.pow 1000 2)
    | "G" | "GiB" => some (Nat.pow 1024 3)
    | "b" => some 512
    | "c" => some 1
    | _ => none
  match Text.natural? digits, factor? with
  | some n, some factor => some (n * factor)
  | _, _ => none

def reason : IoError → Text
  | .os errno => errno.text
  | cause => cause.message

namespace Tool

/-- Carries out what the process of the program does. -/
def act {α : Type} (activity : Activity α) : Tool α := activity

def process : Tool Process := act .self

/-- The files and the directory that the program finds. -/
def view : Tool View := act .view

def arguments : Tool (List Text) := return (← process).arguments.tail

def zone : Tool Zone := do return (((← process).value? "TZ".toList).map Zone.ofText).getD .utc

def flush : Tool Unit := do
  let d ← get
  let t := d.printed.reverse.flatten
  if t ≠ [] then
    let lost ← act (.write 1 t)
    set { d with printed := [], size := 0, lost := d.lost <|> lost }

def bufferSize : Nat := 4096

/-- Prints text. It is written when there is enough of it, or at the end. -/
def print (t : Text) : Tool Unit := do
  let d ← get
  let size := d.size + t.length
  set { d with printed := t :: d.printed, size }
  if bufferSize ≤ size then flush

def printLine (t : Text) : Tool Unit := print t.line

def tell (message : Text) : Tool Unit := do
  flush
  let _ ← act (.write 2 message.line)

/-- Writes a message behind the name of the program. -/
def complain (message : Text) : Tool Unit := do
  tell ((← process).name ++ ": ".toList ++ message)

/-- As `complain`; the program goes on, and ends with this status. -/
def blame (status : Nat) (message : Text) : Tool Unit := do
  complain message
  modify ({ · with status })

def stop {α : Type} (status : Nat) : Tool α := throw (.exited (.ofNat status))

def refuse {α : Type} (status : Nat) (message : Text) : Tool α := do
  complain message
  stop status

def misuse {α : Type} (status : Nat) (message : Text) : Tool α := do
  complain message
  tell ("Try '".toList ++ (← process).name ++ " --help' for more information.".toList)
  stop status

end Tool

/-- The options that a program knows: letters, letters that take a value, and long names with the
letters that they stand for. -/
structure Known where
  letters : String := ""
  valued : String := ""
  /-- Letters whose value, if there is one, stands right behind them. -/
  loose : String := ""
  /-- Letters that only long names stand for. -/
  named : String := ""
  long : List (String × Char) := []
  /-- The status of a mistake. -/
  status : Nat := 1
  /-- Options may stand behind operands. -/
  mixed : Bool := true
  /-- The letter that an option of digits is the value of. -/
  counted : Option Char := none
  /-- What may stand behind the name of the program; it is shown with every complaint if it is
  set. -/
  usage : String := ""
  /-- What is told about the program behind every complaint, in place of where help is. -/
  manual : List String := []

/-- The options found, with their values, and the operands. -/
structure Given where
  options : List (Char × Text) := []
  operands : List Text := []

namespace Given

def has (g : Given) (c : Char) : Bool := g.options.any (·.1 == c)

def value? (g : Given) (c : Char) : Option Text := g.options.reverse.lookup c

def add (g : Given) (c : Char) (value : Text) : Given :=
  { g with options := g.options ++ [(c, value)] }

end Given

namespace Known

/-- Refuses arguments that the program does not know, and says where help is. -/
def refuse {α : Type} (k : Known) (message : Text) : Tool α := do
  if k.manual ≠ [] then
    if message ≠ [] then Tool.complain message
    let name := (← Tool.process).name
    for line in k.manual do Tool.tell (line.toList.flatMap fun c => if c = '\x00' then name else [c])
    Tool.stop k.status
  else if k.usage = "" then Tool.misuse k.status message
  else
    if message ≠ [] then Tool.complain message
    let name := (← Tool.process).name
    Tool.tell ("Usage: ".toList ++ name ++ ' ' :: k.usage.toList)
    Tool.tell ("Try '".toList ++ name ++ " --help' for more information.".toList)
    Tool.stop k.status

/-- The long option that a text is the beginning of. -/
def longOption (k : Known) (key : Text) : Tool (Option (String × Char)) := do
  let fitting := k.long.filter fun (name, _) => key.isPrefixOf name.toList
  match fitting.find? fun (name, _) => name.toList == key with
  | some option => return some option
  | none =>
    if fitting.all fun (_, c) => some c == (fitting.head?).map (·.2) then return fitting.head?
    else
      let names := fitting.flatMap fun (name, _) => " '--".toList ++ name.toList ++ ['\'']
      k.refuse
        ("option '--".toList ++ key ++ "' is ambiguous; possibilities:".toList ++ names)

/-- Reads options and operands; `fuel` bounds the number of letters. -/
def read (k : Known) : Nat → List Text → Given → Tool Given
  | 0, _, g => return g
  | fuel + 1, arguments, g => do
    match arguments with
    | [] => return g
    | ['-', '-'] :: rest => return { g with operands := g.operands ++ rest }
    | ('-' :: '-' :: name) :: rest =>
      match ← k.longOption (name.takeWhile (· != '=')) with
      | none => k.refuse ("unrecognized option '--".toList ++ name ++ ['\''])
      | some (known, c) =>
        if k.valued.toList.contains c then
          match Text.cut? '=' name, rest with
          | some (_, value), rest => k.read fuel rest (g.add c value)
          | none, value :: rest => k.read fuel rest (g.add c value)
          | none, [] =>
            k.refuse
              ("option '--".toList ++ known.toList ++ "' requires an argument".toList)
        else if k.loose.toList.contains c then
          k.read fuel rest (g.add c (((Text.cut? '=' name).map (·.2)).getD []))
        else if name.contains '=' then
          k.refuse
            ("option '--".toList ++ known.toList ++ "' doesn't allow an argument".toList)
        else k.read fuel rest (g.add c [])
    | ('-' :: c :: more) :: rest =>
      match if c.isDigit then k.counted else none with
      | some letter => return ← k.read fuel rest (g.add letter (c :: more))
      | none => pure ()
      if k.named.toList.contains c then k.refuse ("invalid option -- '".toList ++ [c, '\''])
      else if k.valued.toList.contains c then
        match more, rest with
        | [], [] =>
          k.refuse ("option requires an argument -- '".toList ++ [c, '\''])
        | [], value :: rest => k.read fuel rest (g.add c value)
        | value, rest => k.read fuel rest (g.add c value)
      else if k.loose.toList.contains c then k.read fuel rest (g.add c more)
      else if k.letters.toList.contains c then
        k.read fuel (if more = [] then rest else ('-' :: more) :: rest) (g.add c [])
      else k.refuse ("invalid option -- '".toList ++ [c, '\''])
    | operand :: rest =>
      if k.mixed then k.read fuel rest { g with operands := g.operands ++ [operand] }
      else return { g with operands := g.operands ++ operand :: rest }

/-- More letters than all arguments together can have. -/
def letterLimit : Nat := 10000000

/-- The options and operands that the program was started with. -/
def given (k : Known) : Tool Given := do
  k.read letterLimit (← Tool.arguments) {}

def givenOperands (k : Known) : Tool Given := do
  let g ← k.given
  if g.operands = [] then k.refuse "missing operand".toList
  return g

end Known

namespace Tool

def content (name : Text) : Tool (Except IoError Text) := do
  if name = ['-'] then
    match ← act (.drain 0) with
    | .ok t => return .ok t
    | .error errno => return .error (.os errno)
  else act (.content name)

/-- Puts a question on the error output, and reads the answer. -/
def ask (question : Text) : Tool Bool := do
  flush
  let _ ← act (.write 2 ((← process).name ++ ": ".toList ++ question))
  let answer ← readAnswer 10000 []
  return answer.head?.any fun c => c == 'y' || c == 'Y'
where
  /-- Reads a line byte by byte. -/
  readAnswer : Nat → Text → Tool Text
    | 0, t => return t.reverse
    | fuel + 1, t => do
      match ← act (.pull 0 1) with
      | .ok [c] => if c = '\n' then return t.reverse else readAnswer fuel (c :: t)
      | _ => return t.reverse

def find (name : Text) : Tool (Except IoError (Location × Node)) := act (.find name)

def change (f : FileSystem → Location → Except IoError FileSystem) : Tool (Option IoError) := do
  match ← act (.changeFiles fun files here => (f files here).map ((), ·)) with
  | .ok () => return none
  | .error cause => return some cause

def hasTerminal : Tool Bool := do return (← act .system).isTerminal (← process) 0

/-- Brings a program to its end. What it has printed is written, and if that fails it ends with the
given status. -/
def finish (failure : Nat) (tool : Tool Nat) : Activity Ending := do
  let conclude : Tool Ending := do
    flush
    let d ← get
    match d.lost with
    | some errno =>
      complain ("write error: ".toList ++ errno.text)
      return .exited (.ofNat failure)
    | none => return .exited (.ofNat d.status)
  let work : Tool Ending := do
    let status ← tool
    modify fun d => { d with status := max status d.status }
    conclude
  let (result, desk) ← StateT.run (ExceptT.run work) {}
  match result with
  | .ok ending => return ending
  | .error ending =>
    let _ ← StateT.run (ExceptT.run flush) desk
    return ending

end Tool

/-! ### Reading piece by piece -/

structure Feed where
  descriptor : Nat := 0
  /-- What has been read and not yet been used. -/
  buffer : Text := []
  /-- Nothing more comes, for this reason if there is one. -/
  ended : Option (Option Errno) := none
  /-- How much is read at once. -/
  unit : Nat := 4096

namespace Feed

def ofFile (name : Text) : Tool (Except IoError Feed) := do
  match ← Tool.act (.openForReading name) with
  | .ok descriptor => return .ok { descriptor }
  | .error cause => return .error cause

def ofName (name : Text) : Tool (Except IoError Feed) := do
  if name = ['-'] then return .ok {} else ofFile name

def close (f : Feed) : Tool Unit := do
  if f.descriptor ≠ 0 then Tool.act (.close f.descriptor)

def failure? (f : Feed) : Option Errno := f.ended.join

def more (f : Feed) : Tool Feed := do
  match ← Tool.act (.pull f.descriptor f.unit) with
  | .ok [] => return { f with ended := some none }
  | .ok t => return { f with buffer := f.buffer ++ t }
  | .error errno => return { f with ended := some (some errno) }

/-- Takes the text up to the next mark, and the mark; what is left at the end may lack it. -/
def piece (mark : Char) : Nat → Feed → Tool (Option Text × Feed)
  | 0, f => return (none, f)
  | fuel + 1, f => do
    let front := f.buffer.takeWhile (· != mark)
    match f.buffer.drop front.length with
    | _ :: rest => return (some (front ++ [mark]), { f with buffer := rest })
    | [] =>
      if f.ended.isSome then
        return (if front = [] then none else some front, { f with buffer := [] })
      else piece mark fuel (← f.more)

/-- Takes a line with its newline; the last one may lack it. -/
def line (f : Feed) : Tool (Option Text × Feed) := piece '\n' Activity.readLimit f

/-- Takes whatever there is, at least a byte unless the input has ended. -/
def block (f : Feed) : Tool (Text × Feed) := do
  if f.buffer ≠ [] ∨ f.ended.isSome then return (f.buffer, { f with buffer := [] })
  else
    let f ← f.more
    return (f.buffer, { f with buffer := [] })

/-- Goes through the pieces in front of marks, as long as the step wants more. -/
def foldPieces {σ : Type} (mark : Char) (step : σ → Text → Tool (ForInStep σ)) :
    Nat → σ → Feed → Tool (σ × Feed)
  | 0, state, f => return (state, f)
  | fuel + 1, state, f => do
    match ← piece mark Activity.readLimit f with
    | (none, f) => return (state, f)
    | (some t, f) =>
      match ← step state t with
      | .yield state => foldPieces mark step fuel state f
      | .done state => return (state, f)

/-- Goes through the lines, as long as the step wants more. -/
def foldLines {σ : Type} (f : Feed) (state : σ) (step : σ → Text → Tool (ForInStep σ)) :
    Tool (σ × Feed) := foldPieces '\n' step Activity.readLimit state f

def foldBlocks {σ : Type} (step : σ → Text → Tool σ) : Nat → σ → Feed → Tool (σ × Feed)
  | 0, state, f => return (state, f)
  | fuel + 1, state, f => do
    match ← f.block with
    | ([], f) => return (state, f)
    | (t, f) => foldBlocks step fuel (← step state t) f

end Feed
end LineShell.Utility
