import LineShell.Host.Utility.Records.Associations
import LineShell.Host.Utility.Records.Format
import LineShell.Host.Utility.Records.Parser
import LineShell.Host.Utility.ShellCommand

/-! What a report keeps while it runs, and how it reads and writes. -/
namespace LineShell.Records

open Utility

inductive Terminator
  | mark (c : Char)
  | emptyLines
  | pattern (r : Regex)

def Terminator.ofText (t : Text) : Except ExpressionFault Terminator :=
  match t with
  | [] => .ok .emptyLines
  | [c] => .ok (.mark c)
  | t => (readExpression t).map .pattern

/-- Something that records are taken from. -/
structure Input where
  feed : Feed := {}
  /-- The process that writes it. -/
  process : Option Nat := none

/-- Where the records that nothing else is said of come from. -/
inductive Course
  /-- The next argument is looked at. -/
  | between
  | within (i : Input)
  | over

structure Output where
  isPipe : Bool
  descriptor : Nat
  /-- The process that reads it. -/
  process : Option Nat := none
  /-- What has not been written yet; the last text comes first. -/
  pending : List Text := []
  size : Nat := 0

structure Record where
  whole : Value := .given []
  /-- What stood between fields when the record was taken. -/
  separator : Separator := .blanks
  fields : Option (Array Value) := none

/-- The values of the parameters of a function that is at work; a parameter with values by key has
the number of these. -/
structure Frame where
  values : Array Value := #[]
  arrays : Array (Option Nat) := #[]

structure Machine where
  values : Array Value
  /-- The values by key: first those of the common variables, then those of functions at work. -/
  arrays : Array Associations
  frame : Frame := {}
  record : Record := {}
  separator : Separator := .blanks
  terminator : Terminator := .mark '\n'
  course : Course := .between
  /-- The number of the next argument, and whether one has been read. -/
  argument : Nat := 1
  hasRead : Bool := false
  inputs : List (Text × Input) := []
  outputs : List (Text × Output) := []
  /-- The rules whose records have begun and not ended. -/
  begun : Array Bool
  status : Nat := 0
  seed : Value := .number (.ofNat 0)
  /-- The numbers that random ones are made of. -/
  noise : List Nat

structure Setting where
  report : Report
  start : Script.Start
  /-- The name of the program. -/
  name : Text

/-- Why a statement does not come to its end. -/
inductive Jump
  | leaveLoop
  | nextRound
  | nextRecord
  | nextFile
  | exit
  /-- Something is wrong. -/
  | stop
  | giveBack (v : Value)

abbrev Work := ReaderT Setting (ExceptT Jump (StateT Machine Tool))

namespace Work

def perform {α : Type} (tool : Tool α) : Work α := fun _ s => do return (.ok (← tool), s)

def act {α : Type} (activity : Activity α) : Work α := perform (Tool.act activity)

/-! ### Values -/

def special (s : Special) : Work Value := return ((← get).values[s.number]?).getD .unset

/-- Sets a variable that means something, without further effects. -/
def setSpecial (s : Special) (v : Value) : Work Unit :=
  modify fun m => { m with values := m.values.setIfInBounds s.number v }

def writer (s : Special) : Work (Quantity → Text) :=
  return writeNumber ((← special s).toText (writeNumber "%.6g".toList))

def textOf (v : Value) : Work Text := do
  match v with
  | .number q => return textOfNumber (← writer .numberFormat) q
  | .unset => return []
  | .text t | .given t => return t

def shown (v : Value) : Work Text := do
  match v with
  | .number q => return textOfNumber (← writer .printFormat) q
  | v => textOf v

/-! ### What goes wrong -/

def blurt (message : Text) : Work Unit := do
  let _ ← act (.write 2 ((← read).name ++ ": ".toList ++ message.line))

def fail {α : Type} (message : Text) : Work α := do
  blurt message
  modify ({ · with status := 2 })
  throw .stop

/-- Ends with a message that says how far the report has come. -/
def failHere {α : Type} (message : Text) : Work α := do
  let count (s : Special) : Work Text := do
    return ({} : Directive).quantity .double 'g' (← special s).toNumber
  let file ← textOf (← special .fileName)
  fail ("run time error: ".toList ++ message ++ "\n\tFILENAME=\"".toList ++ file ++ "\" FNR=".toList ++
    (← count .fileRecordNumber) ++ " NR=".toList ++ (← count .recordNumber))

def readable {α : Type} (t : Text) : Except ExpressionFault α → Work α
  | .ok a => return a
  | .error fault =>
    failHere ("regular expression compile failed (".toList ++ fault.message ++ ")\n".toList ++ t)

/-! ### The record -/

def recordText : Work Text := do textOf (← get).record.whole

def setRecord (v : Value) : Work Unit :=
  modify fun m => { m with record := { whole := v, separator := m.separator } }

def fields : Work (Array Value) := do
  let m ← get
  match m.record.fields with
  | some found => return found
  | none =>
    let found := ((m.record.separator.split (← recordText)).map Value.given).toArray
    set { m with record := { m.record with fields := some found } }
    return found

/-- Makes values the fields, and the record what they are together. -/
def setFields (found : Array Value) : Work Unit := do
  let between ← textOf (← special .outputSeparator)
  let texts ← found.toList.mapM textOf
  modify fun m => { m with record :=
    { m.record with whole := .given (Text.joined between texts), fields := some found } }

def field (n : Nat) : Work Value := do
  if n = 0 then return (← get).record.whole
  else return ((← fields)[n - 1]?).getD (.text [])

def setCount (n : Nat) : Work Unit := do
  let found ← fields
  setFields (found.take n ++ Array.replicate (n - found.size) (.text []))

def setField (n : Nat) (v : Value) : Work Unit := do
  if n = 0 then
    let t ← textOf v
    setRecord (match v with
      | .number _ | .unset => .given t
      | v => v)
  else
    let found ← fields
    let all := found ++ Array.replicate (n - found.size) (.text [])
    setFields (all.set! (n - 1) v)

def fieldLimit : Nat := Nat.pow 2 20

def fieldNumber (v : Value) : Work Nat := do
  let n := v.toNumber.toIntWithin (-(Int.pow 2 31)) (Int.pow 2 31 - 1)
  if n < 0 then failHere ("negative field index $".toList ++ Text.signed n)
  if fieldLimit < n.toNat then failHere ("field index too large: $".toList ++ Text.signed n)
  return n.toNat

/-! ### Variables -/

def value (v : Variable) : Work Value := do
  match v with
  | .common i => return ((← get).values[i]?).getD .unset
  | .parameter i => return ((← get).frame.values[i]?).getD .unset

/-- Gives a variable a value. What stands between fields and between records may change by that. -/
def setValue (v : Variable) (x : Value) : Work Unit := do
  match v with
  | .parameter i =>
    modify fun m => { m with frame := { m.frame with values := m.frame.values.setIfInBounds i x } }
  | .common i =>
    modify fun m => { m with values := m.values.setIfInBounds i x }
    if i = Special.fieldSeparator.number then
      let t ← textOf x
      let separator ← readable t (Separator.ofText t)
      modify ({ · with separator })
    else if i = Special.recordSeparator.number then
      let t ← textOf x
      let terminator ← readable t (Terminator.ofText t)
      modify ({ · with terminator })

def arrayOf (v : Variable) : Work Nat := do
  match v with
  | .common i => return i
  | .parameter i => return ((← get).frame.arrays[i]?).join.getD (← get).arrays.size

def isArray (v : Variable) : Work Bool := do
  match v with
  | .common i => return ((← read).report.arrays[i]?).getD false
  | .parameter i => return ((← get).frame.arrays[i]?).join.isSome

def array (id : Nat) : Work Associations := return ((← get).arrays[id]?).getD {}

def setArray (id : Nat) (a : Associations) : Work Unit :=
  modify fun m => { m with arrays := m.arrays.setIfInBounds id a }

def changeArray {α : Type} (id : Nat) (f : Associations → α × Associations) : Work α := do
  let a ← array id
  setArray id {}
  let (x, a) := f a
  setArray id a
  return x

def keyOf (parts : List Value) : Work Key := do
  match parts with
  | [.number q] =>
    match wholeOf? q with
    | some i => if -(Int.pow 2 31) < i ∧ i < Int.pow 2 31 then return .whole i else return .name (Text.signed i)
    | none => return .name (← textOf (.number q))
  | [v] => return .name (← textOf v)
  | parts =>
    let between ← textOf (← special .keySeparator)
    return .name (Text.joined between (← parts.mapM textOf))

/-! ### Output -/

def flushOutput (o : Output) : Work Output := do
  if o.size ≠ 0 then
    let _ ← act (.write o.descriptor o.pending.reverse.flatten)
  return { o with pending := [], size := 0 }

def flushAll : Work Unit := do
  perform Tool.flush
  let outputs ← (← get).outputs.mapM fun (name, o) => return (name, ← flushOutput o)
  modify ({ · with outputs })

/-- Starts a command whose input or output is the other end of a pipe, and gives this end. -/
def openPipe (command : Text) (writes : Bool) : Work (Nat × Nat) := do
  flushAll
  let (input, output) ← act Script.Runner.openPipe
  let (here, there) := if writes then (output, input) else (input, output)
  let others := (← get).outputs.map fun (_, o) => o.descriptor
  let child ← perform (startShell (← read).start command (do
    Activity.close here
    for d in others do Activity.close d
    Script.moveDescriptor there (if writes then 0 else 1)) "/bin/sh".toList)
  act (.close there)
  return (here, child)

/-- The output of a name, which is opened if it is not open yet. -/
def outputFor (outlet : Outlet) (name : Text) : Work Output := do
  let isPipe := outlet == .pipe
  match (← get).outputs.find? fun (n, o) => n == name && o.isPipe == isPipe with
  | some (_, o) => return o
  | none =>
    if isPipe then
      let (descriptor, child) ← openPipe name true
      return { isPipe, descriptor, process := some child }
    else
      match ← act (.openForWriting name (.write (outlet == .append))) with
      | .ok descriptor => return { isPipe, descriptor }
      | .error cause =>
        fail ("cannot open \"".toList ++ name ++ "\" for output (".toList ++ reason cause ++ [')'])

def emit (outlet : Outlet) (name t : Text) : Work Unit := do
  if outlet ≠ .pipe ∧ name = "/dev/stdout".toList then perform (Tool.print t)
  else if outlet ≠ .pipe ∧ name = "/dev/stderr".toList then
    let _ ← act (.write 2 t)
  else
    let o ← outputFor outlet name
    let o := { o with pending := t :: o.pending, size := o.size + t.length }
    let o ← if Tool.bufferSize ≤ o.size then flushOutput o else pure o
    modify fun m =>
      { m with outputs := (name, o) ::
          m.outputs.filter fun (n, p) => n != name || p.isPipe != o.isPipe }

def endingNumber : Ending → Int
  | .exited code => code.toNat
  | .signalled n => 256 + n

def await : Option Nat → Work Int
  | some child => return endingNumber (← act (.join child))
  | none => return 0

/-- Closes an output, and tells how its command has ended. -/
def closeOutput (o : Output) : Work Int := do
  let o ← flushOutput o
  act (.close o.descriptor)
  await o.process

def closeOutputs : Work Unit := do
  for (_, o) in (← get).outputs do
    let _ ← closeOutput o
  modify ({ · with outputs := [] })

/-- Closes everything of a name, and tells how the last command of it has ended; a number below zero
says that there was nothing. -/
def closeNamed (name : Text) : Work Int := do
  let m ← get
  set { m with
    inputs := m.inputs.filter (·.1 != name), outputs := m.outputs.filter (·.1 != name) }
  let mut result : Int := -1
  for (n, o) in m.outputs do
    if n = name then result := ← closeOutput o
  for (n, i) in m.inputs do
    if n = name then
      perform i.feed.close
      result := ← await i.process
  return result

def runCommand (command : Text) : Work Int := do
  flushAll
  let child ← perform (startShell (← read).start command (pure ()))
  await (some child)

/-! ### Input -/

/-- Reads on until there is a good deal more, or nothing more comes. -/
def fill (feed : Feed) : Work Feed := do
  let feed ← perform (go feed.unit (feed.buffer.length + feed.unit) feed)
  match feed.failure? with
  | some errno => fail ("read error (".toList ++ errno.text ++ [')'])
  | none => return feed
where
  /-- Reads at most so often. -/
  go : Nat → Nat → Feed → Tool Feed
    | 0, _, feed => return feed
    | fuel + 1, wanted, feed => do
      if feed.ended.isSome ∨ wanted ≤ feed.buffer.length then return feed
      else go fuel wanted (← feed.more)

/-- The record at the front of what has been read, and what follows it; there may be none before
more is read. -/
def cutRecord (terminator : Terminator) (isLast : Bool) (t : Text) : Option (Text × Text) :=
  match terminator with
  | .mark c =>
    let front := t.takeWhile (· != c)
    match t.drop front.length with
    | _ :: rest => some (front, rest)
    | [] => if isLast then some (front, []) else none
  | .emptyLines =>
    let rec front : Text → Text → Text × Text
      | found, '\n' :: '\n' :: rest => (found.reverse, '\n' :: '\n' :: rest)
      | found, c :: rest => front (c :: found) rest
      | found, [] => (found.reverse, [])
    let (found, rest) := front [] t
    let rest := rest.dropWhile (· == '\n')
    if rest = [] ∧ !isLast then none
    else
      let isEnded := rest = [] && found.getLast? == some '\n'
      some (if isEnded then found.dropLast else found, rest)
  | .pattern r =>
    match findSome r 0 none t with
    | some m =>
      if m.stop.rest = [] ∧ !isLast then none else some (t.take m.start.index, m.stop.rest)
    | none => if isLast then some (t, []) else none

/-- Takes a record from a feed, in at most so many reads. -/
def takeRecord (terminator : Terminator) : Nat → Feed → Work (Option Text × Feed)
  | 0, feed => return (none, feed)
  | fuel + 1, feed => do
    let buffer := match terminator with
      | .emptyLines => feed.buffer.dropWhile (· == '\n')
      | _ => feed.buffer
    let feed := { feed with buffer }
    let isLast := feed.ended.isSome
    if buffer = [] ∧ isLast then return (none, feed)
    match cutRecord terminator isLast buffer with
    | some (t, rest) => return (some t, { feed with buffer := rest })
    | none => takeRecord terminator fuel (← fill feed)

def recordFrom (i : Input) : Work (Option Text × Input) := do
  let (t, feed) ← takeRecord (← get).terminator Activity.readLimit i.feed
  return (t, { i with feed })

def openInput (name : Text) : Work (Except IoError Input) := do
  if name = ['-'] ∨ name = "/dev/stdin".toList then return .ok {}
  match ← perform (Feed.ofFile name) with
  | .ok feed => return .ok { feed }
  | .error cause => return .error cause

def isName (t : Text) : Bool :=
  t.head?.any (fun c => c.isAlpha || c == '_') && t.all fun c => c.isAlphanum || c == '_'

def assignArgument (name t : Text) : Work Unit := do
  let x := Value.given (Read.unescape (t.length + 1) t)
  let report := (← read).report
  let isTaken := Read.keywords.any (·.toList == name) || builtins.any (·.1.toList == name)
  let refuse : Work Unit :=
    failHere ("cannot command line assign to ".toList ++ name ++ "\n\ttype clash or keyword".toList)
  if name = "NF".toList then setCount (x.toNumber.toIntWithin 0 fieldLimit).toNat
  else if isTaken then refuse
  else
    match report.names.idxOf? name with
    | some i => if (report.arrays[i]?).getD false then refuse else setValue (.common i) x
    | none => if report.functionNames.contains name then refuse

/-- Goes to the next file among the arguments; assignments among them are carried out. Without any
file there is the standard input. -/
def nextCourse : Nat → Work Unit
  | 0 => modify ({ · with course := .over })
  | fuel + 1 => do
    let m ← get
    let count := (← special .argumentCount).toNumber.toIntWithin 0 (Int.pow 2 31 - 1)
    if count ≤ m.argument then
      if m.hasRead then set { m with course := .over } else start ['-'] {}
    else
      set { m with argument := m.argument + 1 }
      let key := Key.whole m.argument
      let id := Special.arguments.number
      let found ← changeArray id fun a => a.contains key
      let t ← if found then textOf (← changeArray id fun a => a.get key) else pure []
      if t = [] then nextCourse fuel
      else
        match Text.cut? '=' t with
        | some (name, value) =>
          if isName name then
            assignArgument name value
            nextCourse fuel
          else openFile t
        | none => openFile t
where
  /-- Begins with an input. -/
  start (name : Text) (i : Input) : Work Unit := do
    modify fun m => { m with course := .within i, hasRead := true }
    setSpecial .fileName (.text name)
    setSpecial .fileRecordNumber (.number (.ofNat 0))
  /-- Begins with a file. -/
  openFile (t : Text) : Work Unit := do
    match ← openInput t with
    | .ok i => start t i
    | .error cause => fail ("cannot open ".toList ++ t ++ " (".toList ++ reason cause ++ [')'])

def leaveCourse : Work Unit := do
  if let .within i := (← get).course then perform i.feed.close
  modify ({ · with course := .between })

def nextRecord : Nat → Work (Option Text)
  | 0 => return none
  | fuel + 1 => do
    match (← get).course with
    | .over => return none
    | .between =>
      nextCourse Activity.readLimit
      nextRecord fuel
    | .within i =>
      let (t, i) ← recordFrom i
      modify ({ · with course := .within i })
      match t with
      | some t =>
        let count (s : Special) : Work Unit := do
          setSpecial s (.number (.sum .double (← special s).toNumber (.ofNat 1)))
        count .recordNumber
        count .fileRecordNumber
        return some t
      | none =>
        leaveCourse
        nextRecord fuel

/-- Takes a record from an input of a name, which is opened if it is not open yet; nothing says that
it cannot be opened. -/
def namedRecord (isCommand : Bool) (name : Text) : Work (Option (Option Text)) := do
  let key := name
  let found ← match (← get).inputs.find? fun (n, i) => n == key && i.process.isSome == isCommand with
    | some (_, i) => pure (some i)
    | none =>
      if isCommand then
        let (descriptor, child) ← openPipe name false
        pure (some { feed := { descriptor }, process := some child : Input })
      else pure (← openInput name).toOption
  match found with
  | none => return none
  | some i =>
    let (t, i) ← recordFrom i
    modify fun m =>
      { m with inputs := (key, i) ::
          m.inputs.filter fun (n, j) => n != key || j.process.isSome != isCommand }
    return some t

/-! ### Chance -/

/-- The numbers that random ones are made of, from a seed. -/
def noiseOf (seed : Nat) : List Nat :=
  let first := if seed % Nat.pow 2 31 = 0 then 1 else seed % Nat.pow 2 31
  let early := (List.range 30).foldl (fun l _ => (16807 * l.headD 1 % 2147483647) :: l) [first]
  let later := (List.range 3).foldl (fun l _ => (l[30]?).getD 0 :: l) early
  (List.range 310).foldl (fun l _ => step l) (later.take 31)
where
  /-- Adds a number; the last one comes first. -/
  step (l : List Nat) : List Nat :=
    (((l[30]?).getD 0 + (l[2]?).getD 0) % Nat.pow 2 32 :: l).take 31

def randomNumber : Work Quantity := do
  let noise := noiseOf.step (← get).noise
  modify ({ · with noise })
  return .quotient .double (.ofNat (noise.headD 0 / 2)) (.ofNat 2147483647)

end Work
end LineShell.Records
