import LineShell.Host.Utility.DateText
import LineShell.Host.Utility.Records.Machine

/-! Reports at work: what expressions are worth, and what statements do. -/
namespace LineShell.Records

open Utility

def Arithmetic.apply : Arithmetic → Quantity → Quantity → Quantity
  | .sum => .sum .double
  | .difference => .difference .double
  | .product => .product .double
  | .quotient => .quotient .double
  | .remainder => .remainder
  | .power => .raised .double

/-- Something that can be assigned to, as far as it has been found. -/
inductive Cell
  | variable (v : Variable)
  | element (array : Nat) (k : Key)
  | field (number : Nat)
  | fieldCount

/-- The whole number nearest to a value, of two the even one. -/
def nearestInt (x : Rat) : Int :=
  if x < 0 then -(roundHalfEven (-x) : Int) else roundHalfEven x

/-- A part of a text: where it begins, and how long it is if that is said. -/
def substring (t : Text) (first : Quantity) (length : Option Quantity) : Text :=
  let large : Rat := 1000000000000000
  let value (q : Quantity) : Rat := match q with
    | .infinite negative => if negative then -large else large
    | .undefined _ => 0
    | q =>
      let x := q.value?.getD 0
      if x < -large then -large else if large < x then large else x
  let start := value first
  let stop : Int := match length with
    | some n => nearestInt (start + value n)
    | none => t.length + 1
  let start := nearestInt start
  let begun := (max start 1 - 1).toNat
  (t.drop begun).take (stop - 1 - begun).toNat

/-- Where a text begins in another one; 0 says that it does not. -/
def indexOf (part t : Text) : Nat :=
  let rec go : Nat → Text → Nat
    | n, [] => if part = [] then n else 0
    | n, c :: rest => if part.isPrefixOf (c :: rest) then n else go (n + 1) rest
  go 1 t

/-- The second that six numbers name, as clocks of a zone show it. -/
def secondOf (zone : Zone) (t : Text) : Int :=
  match ((splitWhere isBlank t).filter (· ≠ [])).map fun t => (numberOf t).toIntWithin (-9999) 9999 with
  | year :: month :: day :: hour :: minute :: second :: _ =>
    let months := year * 12 + month - 1
    let days := Calendar.daysTo (months.fdiv 12) ((months.fmod 12).toNat + 1) day
    zone.secondsTo (days * Calendar.daySeconds + hour * 3600 + minute * 60 + second)
  | _ => -1

namespace Work

def giveUp {α : Type} : Work α := fail "report goes on for too long".toList

/-! ### Cells -/

def get' (c : Cell) : Work Value := do
  match c with
  | .variable v => value v
  | .element id k => changeArray id fun a => a.get k
  | .field n => field n
  | .fieldCount => return .number (.ofNat (← fields).size)

def put (c : Cell) (v : Value) : Work Unit := do
  match c with
  | .variable x => setValue x v
  | .element id k => changeArray id fun a => ((), a.set k v)
  | .field n => setField n v
  | .fieldCount => setCount (v.toNumber.toIntWithin 0 fieldLimit).toNat

/-- Puts a record where it is asked for: into a cell, or in the place of the record. -/
def putRecord (c : Option Cell) (t : Text) : Work Unit := do
  match c with
  | some c => put c (.given t)
  | none => setRecord (.given t)

/-- The number that says whether a record has been taken. -/
def putTaken (c : Option Cell) (taken : Option (Option Text)) : Work Value := do
  match taken with
  | none => return .ofInt (-1)
  | some none => return .ofInt 0
  | some (some t) =>
    putRecord c t
    return .ofInt 1

/-! ### Functions that every report knows -/

/-- Puts values into a format, all of them or none. -/
def formatted (values : List Value) : Work Text := do
  let t ← textOf (values.headD .unset)
  match format (← writer .numberFormat) t values.tail with
  | (shown, none) => return shown
  | (_, some fault) => formatFailure "sprintf" t fault
where
  /-- Ends because a format and its values do not fit. -/
  formatFailure {α : Type} (who : String) (t : Text) (fault : FormatFault) : Work α :=
    let called := who.toList ++ "(\"".toList ++ t ++ "\")".toList
    match fault with
    | .tooFewValues => failHere ("not enough arguments passed to ".toList ++ called)
    | .unknown n =>
      failHere ("improper conversion(number ".toList ++ Text.decimal n ++ ") in ".toList ++ called)

def now : Work Int := return ((← act .system).files.now / 1000000000 : Nat)

/-- The value of a function that every report knows. -/
def builtin (f : Builtin) (arguments : List Value) : Work Value := do
  let first := arguments.headD .unset
  let second := (arguments.drop 1).headD .unset
  let a := first.toNumber
  match f with
  | .sin => return .number (.sin .double a)
  | .cos => return .number (.cos .double a)
  | .atan2 => return .number (.atan2 .double a second.toNumber)
  | .exp => return .number (.exp .double a)
  | .log => return .number (.log .double a)
  | .sqrt => return .number (.sqrt .double a)
  | .int => return .number a.truncated
  | .random => return .number (← randomNumber)
  | .seed =>
    let old := (← get).seed
    let seed ← match arguments with
      | [] => pure (Value.ofInt (← now))
      | v :: _ => pure v
    let noise := noiseOf (seed.toNumber.toIntWithin 0 (Int.pow 2 32 - 1)).toNat
    modify ({ · with seed, noise })
    return old
  | .index => return .ofInt (indexOf (← textOf second) (← textOf first))
  | .substring =>
    let t ← textOf first
    return .text (substring t second.toNumber ((arguments.drop 2).head?.map (·.toNumber)))
  | .formatted => return .text (← formatted arguments)
  | .length =>
    let t ← match arguments with
      | [] => recordText
      | v :: _ => textOf v
    return .ofInt t.length
  | .close => return .ofInt (← closeNamed (← textOf first))
  | .system => return .ofInt (← runCommand (← textOf first))
  | .toUpper => return .text ((← textOf first).map Char.toUpper)
  | .toLower => return .text ((← textOf first).map Char.toLower)
  | .flush =>
    match arguments with
    | [] =>
      perform Tool.flush
      return .ofInt 0
    | v :: _ =>
      let name ← textOf v
      if name = "/dev/stdout".toList then
        perform Tool.flush
        return .ofInt 0
      let isOpen := (← get).outputs.any (·.1 == name)
      let outputs ← (← get).outputs.mapM fun (n, o) =>
        return (n, ← if n = name then flushOutput o else pure o)
      modify ({ · with outputs })
      return .ofInt (if isOpen then 0 else -1)
  | .time => return .ofInt (← now)
  | .formattedTime =>
    let t ← match arguments with
      | [] => pure "%c".toList
      | v :: _ => textOf v
    let time ← match arguments.drop 1 with
      | [] => now
      | v :: _ => pure (v.toNumber.toIntWithin (-(Int.pow 2 55)) (Int.pow 2 55))
    let isUniversal := (arguments.drop 2).any (·.isTrue)
    let zone ← if isUniversal then pure Zone.utc else perform Tool.zone
    return .text (DateText.format zone (time * 1000000000) t)
  | .timeOf => return .ofInt (secondOf (← perform Tool.zone) (← textOf first))

/-! ### Expressions -/

mutual

def evaluate : Nat → Expr → Work Value
  | 0, _ => giveUp
  | fuel + 1, e => do
    match e with
    | .number q => return .number q
    | .text t => return .text t
    | .matched r => return .ofBool (r.isIn (← recordText))
    | .value t => get' (← cellOf fuel false t)
    | .assign t operation e =>
      let c ← cellOf fuel true t
      let v ← evaluate fuel e
      let v ← match operation with
        | none => pure v
        | some operation => pure (.number (operation.apply (← get' c).toNumber v.toNumber))
      put c v
      return v
    | .step t isBefore up =>
      let c ← cellOf fuel true t
      let old := (← get' c).toNumber
      let operation := if up then Quantity.sum .double else .difference .double
      let new := operation old (.ofNat 1)
      put c (.number new)
      return .number (if isBefore then new else old)
    | .arithmetic operation a b =>
      let a ← evaluate fuel a
      let b ← evaluate fuel b
      return .number (operation.apply a.toNumber b.toNumber)
    | .negative e => return .number (← evaluate fuel e).toNumber.negated
    | .numeric e => return .number (← evaluate fuel e).toNumber
    | .not e => return .ofBool !(← evaluate fuel e).isTrue
    | .join a b =>
      let a ← evaluate fuel a
      let b ← evaluate fuel b
      return .text ((← textOf a) ++ (← textOf b))
    | .relation r a b =>
      let a ← evaluate fuel a
      let b ← evaluate fuel b
      return .ofBool (r.holds (← writer .numberFormat) a b)
    | .matching e p isNegated =>
      let t ← textOf (← evaluate fuel e)
      let r ← regexOf fuel p
      return .ofBool (r.isIn t != isNegated)
    | .and a b =>
      if (← evaluate fuel a).isTrue then return .ofBool (← evaluate fuel b).isTrue
      else return .ofBool false
    | .or a b =>
      if (← evaluate fuel a).isTrue then return .ofBool true
      else return .ofBool (← evaluate fuel b).isTrue
    | .choice c a b => if (← evaluate fuel c).isTrue then evaluate fuel a else evaluate fuel b
    | .contains keys v =>
      let k ← keyOf (← evaluateAll fuel keys)
      let id ← arrayOf v
      return .ofBool (← changeArray id fun a => a.contains k)
    | .call f arguments => call fuel f arguments
    | .builtin f arguments => builtin f (← evaluateAll fuel arguments)
    | .size v =>
      if ← isArray v then return .ofInt (← array (← arrayOf v)).size
      else return .ofInt (← textOf (← value v)).length
    | .take t =>
      let c ← cellIf fuel t
      putTaken c (some (← nextRecord Activity.readLimit))
    | .takeFrom file t =>
      let c ← cellIf fuel t
      let name ← textOf (← evaluate fuel file)
      putTaken c (← namedRecord false name)
    | .takeOf command t =>
      let name ← textOf (← evaluate fuel command)
      let c ← cellIf fuel t
      putTaken c (← namedRecord true name)
    | .split e v separator =>
      let t ← textOf (← evaluate fuel e)
      let id ← arrayOf v
      let parts ← match separator with
        | none => pure ((← get).separator.split t)
        | some (.fixed r) => pure (Separator.split (.pattern r) t)
        | some (.computed e) =>
          let s ← textOf (← evaluate fuel e)
          pure ((← readable s (Separator.ofText s)).split t)
      setArray id (.ofList (parts.map .given))
      return .ofInt parts.length
    | .substitute everywhere p replacement t =>
      let r ← regexOf fuel p
      let replacement ← textOf (← evaluate fuel replacement)
      let c ← cellOf fuel true t
      let old ← textOf (← get' c)
      let (new, n) := substitute everywhere r replacement old
      if 0 < n then put c (.text new)
      return .ofInt n
    | .locate e p =>
      let t ← textOf (← evaluate fuel e)
      let r ← regexOf fuel p
      let (start, length) : Int × Int := match r.find? { rest := t } with
        | some m => (m.start.index + 1, m.text.length)
        | none => (0, -1)
      setSpecial .matchStart (.ofInt start)
      setSpecial .matchLength (.ofInt length)
      return .ofInt start

def evaluateAll : Nat → List Expr → Work (List Value)
  | 0, _ => giveUp
  | _ + 1, [] => return []
  | fuel + 1, e :: rest => do
    let v ← evaluate fuel e
    return v :: (← evaluateAll fuel rest)

/-- Finds what can be assigned to. With `creates` an element is there from now on. -/
def cellOf : Nat → Bool → Target → Work Cell
  | 0, _, _ => giveUp
  | fuel + 1, creates, t => do
    match t with
    | .plain v => return .variable v
    | .element v keys =>
      let k ← keyOf (← evaluateAll fuel keys)
      let id ← arrayOf v
      if creates then
        let _ ← changeArray id fun a => a.get k
      return .element id k
    | .field e => return .field (← fieldNumber (← evaluate fuel e))
    | .fieldCount => return .fieldCount

/-- Finds what can be assigned to, if there is something. -/
def cellIf : Nat → Option Target → Work (Option Cell)
  | 0, _ => giveUp
  | _ + 1, none => return none
  | fuel + 1, some t => return some (← cellOf fuel true t)

def regexOf : Nat → Pattern → Work Regex
  | 0, _ => giveUp
  | _ + 1, .fixed r => return r
  | fuel + 1, .computed e => do
    let t ← textOf (← evaluate fuel e)
    readable t (readExpression t)

def call : Nat → Nat → List Expr → Work Value
  | 0, _, _ => giveUp
  | fuel + 1, f, arguments => do
    match (← read).report.functions[f]? with
    | none => return .unset
    | some function =>
      let m ← get
      let count := m.arrays.size
      let frame ← pass fuel function.arrays.toList arguments {} count
      let own := (frame.arrays.toList.filter fun id => id.any (count ≤ ·)).length
      modify fun m => { m with frame, arrays := m.arrays ++ Array.replicate own {} }
      let v ← try
          execute fuel function.body
          pure Value.unset
        catch jump =>
          match jump with
          | .giveBack v => pure v
          | jump => throw jump
      modify fun after => { after with frame := m.frame, arrays := after.arrays.take count }
      return v

/-- Evaluates arguments for parameters, of which each has values by key or has not. `next` is the
number for the next values by key that no argument gives. -/
def pass : Nat → List Bool → List Expr → Frame → Nat → Work Frame
  | 0, _, _, _, _ => giveUp
  | _ + 1, [], _, frame, _ => return frame
  | fuel + 1, wantsArray :: others, arguments, frame, next => do
    let v? : Option Variable := match arguments.head? with
      | some (.value (.plain v)) => some v
      | _ => none
    let given ← match v? with
      | some v => isArray v
      | none => pure false
    let rest := arguments.drop 1
    if wantsArray then
      let id ← match v? with
        | some v => if given then some <$> arrayOf v else pure none
        | none => pure none
      let frame := { values := frame.values.push .unset, arrays := frame.arrays.push (id.getD next) }
      pass fuel others rest frame (if id.isNone then next + 1 else next)
    else
      let v ← match arguments.head? with
        | some e => if given then pure Value.unset else evaluate fuel e
        | none => pure Value.unset
      pass fuel others rest
        { values := frame.values.push v, arrays := frame.arrays.push none } next

def execute : Nat → Statement → Work Unit
  | 0, _ => giveUp
  | fuel + 1, s => do
    match s with
    | .evaluate e =>
      let _ ← evaluate fuel e
    | .print arguments output =>
      let texts ← if arguments.isEmpty then pure [← shown (← get).record.whole]
        else (← evaluateAll fuel arguments).mapM shown
      let between ← textOf (← special .outputSeparator)
      let t := Text.joined between texts ++ (← textOf (← special .outputEnd))
      emitTo fuel output t
    | .printFormatted arguments output =>
      let values ← evaluateAll fuel arguments
      let t ← textOf (values.headD .unset)
      let (shown, fault) := format (← writer .numberFormat) t values.tail
      emitTo fuel output shown
      match fault with
      | some fault => formatted.formatFailure "printf" t fault
      | none => return ()
    | .branch c yes no =>
      if (← evaluate fuel c).isTrue then execute fuel yes
      else
        match no with
        | some no => execute fuel no
        | none => return ()
    | .loop isTestedLast c step body => runLoop fuel isTestedLast c step body
    | .forKeys v array body =>
      let id ← arrayOf array
      let keys ← changeArray id fun a => a.keys
      forKeys fuel v keys body
    | .block parts => executeAll fuel parts
    | .delete v keys =>
      let id ← arrayOf v
      match keys with
      | none => setArray id {}
      | some keys =>
        let k ← keyOf (← evaluateAll fuel keys)
        changeArray id fun a => ((), a.erase k)
    | .nextRecord => throw .nextRecord
    | .nextFile => throw .nextFile
    | .exit e =>
      if let some e := e then
        let n := (← evaluate fuel e).toNumber.toIntWithin (-(Int.pow 2 31)) (Int.pow 2 31 - 1)
        modify ({ · with status := (n % 256).toNat })
      throw .exit
    | .giveBack e =>
      match e with
      | some e => throw (.giveBack (← evaluate fuel e))
      | none => throw (.giveBack .unset)
    | .leaveLoop => throw .leaveLoop
    | .nextRound => throw .nextRound

def executeAll : Nat → List Statement → Work Unit
  | 0, _ => giveUp
  | _ + 1, [] => return ()
  | fuel + 1, s :: rest => do
    execute fuel s
    executeAll fuel rest

/-- Carries out a round of a loop, and says whether the loop goes on. -/
def runRound : Nat → Statement → Work Bool
  | 0, _ => giveUp
  | fuel + 1, body => do
    try
      execute fuel body
      return true
    catch jump =>
      match jump with
      | .leaveLoop => return false
      | .nextRound => return true
      | jump => throw jump

/-- Carries out a loop; `isFirst` says that its condition is not asked for this time. -/
def runLoop : Nat → Bool → Option Expr → Option Expr → Statement → Work Unit
  | 0, _, _, _, _ => giveUp
  | fuel + 1, isFirst, c, step, body => do
    let goesOn ← match c with
      | some c => if isFirst then pure true else pure (← evaluate fuel c).isTrue
      | none => pure true
    if goesOn then
      if ← runRound fuel body then
        match step with
        | some e =>
          let _ ← evaluate fuel e
        | none => pure ()
        runLoop fuel false c step body

def forKeys : Nat → Variable → List Text → Statement → Work Unit
  | 0, _, _, _ => giveUp
  | _ + 1, _, [], _ => return ()
  | fuel + 1, v, k :: rest, body => do
    setValue v (.text k)
    if ← runRound fuel body then forKeys fuel v rest body

/-- Prints text, to the output if nothing else is said. -/
def emitTo : Nat → Option (Outlet × Expr) → Text → Work Unit
  | 0, _, _ => giveUp
  | _ + 1, none, t => perform (Tool.print t)
  | fuel + 1, some (outlet, e), t => do emit outlet (← textOf (← evaluate fuel e)) t

end

end Work
end LineShell.Records
