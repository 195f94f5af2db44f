import LineShell.Host.Regex.Basic
import LineShell.Host.Script.Pattern

/-! The text of regular expressions, as several programs read it. -/
namespace LineShell.Regex

/-- What is wrong with the text of an expression. -/
inductive Fault
  | openBracket
  | emptyBracket
  | openGroup
  | closedGroup
  | openCount
  | badCount
  | bigCount
  | badClass
  | badRange
  | badCopy
  | nothingToRepeat
  | endsInBackslash
  deriving DecidableEq, Repr

def Fault.message : Fault → Text
  | .openBracket => "Unmatched [, [^, [:, [., or [=".toList
  | .emptyBracket => "Invalid regular expression".toList
  | .openGroup => "Unmatched ( or \\(".toList
  | .closedGroup => "Unmatched ) or \\)".toList
  | .openCount => "Unmatched \\\x7b".toList
  | .badCount => "Invalid content of \\\x7b\\\x7d".toList
  | .bigCount => "Regular expression too big".toList
  | .badClass => "Invalid character class name".toList
  | .badRange => "Invalid range end".toList
  | .badCopy => "Invalid back reference".toList
  | .nothingToRepeat => "Invalid preceding regular expression".toList
  | .endsInBackslash => "Trailing backslash".toList

structure Dialect where
  /-- Operators have no backslash in front of them. -/
  extended : Bool := false
  /-- Repeating nothing is a mistake, and so is repeating twice without `extended`. -/
  strict : Bool := false
  /-- A backslash in front of some letters stands for a character of its own. -/
  letters : Bool := false
  /-- A backslash quotes what stands in brackets, too. -/
  quotedSets : Bool := false
  /-- A range that ends before it begins holds nothing, and is no mistake. -/
  emptyRanges : Bool := false
  /-- Words and their ends are known. -/
  words : Bool := true
  /-- `+` and `?` repeat without a backslash, whatever the other operators have. -/
  plainRepeats : Bool := false
  /-- Repetitions can be counted in braces. -/
  counted : Bool := true
  /-- Sets can have names of classes in them. -/
  classes : Bool := true
  anyCase : Bool := false
  /-- Lines begin and end within the text. -/
  manyLines : Bool := false

/-- What is left of the text, and how many groups have been opened and which are closed. -/
structure Reading where
  rest : Text
  groups : Nat := 0
  closed : List Nat := []

abbrev Read := EStateM Fault Reading

def peek : Read (Option Char) := return (← get).rest.head?

def drop (n : Nat) : Read Unit := modify fun r => { r with rest := r.rest.drop n }

def accept (t : String) : Read Bool := do
  if t.toList.isPrefixOf (← get).rest then
    drop t.length
    return true
  else return false

namespace Dialect

/-- A character class, in either case if case does not count. -/
def one (d : Dialect) (accepts : Char → Bool) : Regex :=
  .one (if d.anyCase then fun c => accepts c || accepts c.toLower || accepts c.toUpper else accepts)

def literal (d : Dialect) (c : Char) : Regex := d.one (· == c)

def operator (d : Dialect) (t : String) : String := if d.extended then t else "\\" ++ t

def repeating (d : Dialect) (t : String) : String := if d.plainRepeats then t else d.operator t

/-! ### Sets -/

/-- The character that a letter behind a backslash stands for. -/
def letterValue? : Char → Option Char
  | 'n' => some '\n'
  | 't' => some '\t'
  | 'f' => some '\x0c'
  | 'v' => some '\x0b'
  | 'a' => some '\x07'
  | 'r' => some '\r'
  | _ => none

/-- One character of a set, which may be written in a longer way. -/
def setChar (d : Dialect) : Read Char := do
  match (← get).rest with
  | '\\' :: c :: _ =>
    if d.quotedSets then
      drop 2
      return (letterValue? c).getD c
    else
      match if d.letters then letterValue? c else none with
      | some value =>
        drop 2
        return value
      | none =>
        drop 1
        return '\\'
  | '[' :: sign :: rest =>
    if sign ≠ '.' ∧ sign ≠ '=' then
      drop 1
      return '['
    else
      match rest with
      | c :: s :: ']' :: _ =>
        if s = sign then
          drop 5
          return c
        else throw .openBracket
      | _ => throw .openBracket
  | c :: _ =>
    drop 1
    return c
  | [] => throw .openBracket

def className? : Read (Option Text) := do
  match (← get).rest with
  | '[' :: ':' :: rest =>
    let name := rest.takeWhile Char.isAlpha
    if !(":]".toList.isPrefixOf (rest.drop name.length)) then throw .openBracket
    drop (name.length + 4)
    if Script.Pattern.classNames.contains name then return some name else throw .badClass
  | _ => return none

/-- The members of a set up to the closing bracket. -/
def setMembers (d : Dialect) : Nat → Bool → (Char → Bool) → Read (Char → Bool)
  | 0, _, _ => throw .openBracket
  | n + 1, first, found => do
    match (← get).rest with
    | [] => throw .openBracket
    | ']' :: _ =>
      if !first then
        drop 1
        return found
    | _ => pure ()
    match ← if d.classes then className? else pure none with
    | some name => setMembers d n false fun c => found c || Script.Pattern.classOf name c
    | none =>
      let low ← setChar d
      match (← get).rest with
      | '-' :: c :: _ =>
        if c = ']' then setMembers d n false fun x => found x || x == low
        else
          drop 1
          let high ← setChar d
          if high < low ∧ !d.emptyRanges then throw .badRange
          setMembers d n false fun x => found x || (low ≤ x && x ≤ high)
      | _ => setMembers d n false fun x => found x || x == low

def bracket (d : Dialect) : Read Regex := do
  let negated ← accept "^"
  if (← get).rest = [] then throw .emptyBracket
  let found ← d.setMembers ((← get).rest.length + 1) true fun _ => false
  let anyCase (c : Char) : Bool :=
    if d.anyCase then found c || found c.toLower || found c.toUpper else found c
  return .one fun c => anyCase c != negated

/-! ### Repetitions -/

/-- The greatest count that an expression may ask for. -/
def countLimit : Nat := 32767

/-- The counts behind an opening brace, with the closing one. -/
def counts (d : Dialect) : Read (Nat × Option Nat) := do
  let close := (d.operator "\x7d").toList
  let t := (← get).rest
  let low := t.takeWhile Char.isDigit
  let behind := t.drop low.length
  let (comma, high) := match behind with
    | ',' :: more => (true, more.takeWhile Char.isDigit)
    | _ => (false, [])
  let length := low.length + (if comma then high.length + 1 else 0)
  let rest := t.drop length
  if !close.isPrefixOf rest then
    if rest.any (· == '\x7d') then throw .badCount else throw .openCount
  if low = [] ∧ !comma then throw .badCount
  drop (length + close.length)
  let least := (Text.natural? low).getD 0
  let most := if comma then Text.natural? high else some least
  if most.any (· < least) then throw .badCount
  if countLimit < max least (most.getD 0) then throw .bigCount
  return (least, most)

/-- The repetition that comes next, if there is one. What looks like counts and is none stands for
itself where no mistakes are looked for. -/
def repetition? (d : Dialect) : Read (Option (Nat × Option Nat)) := do
  if ← accept "*" then return some (0, none)
  else if ← accept (d.repeating "+") then return some (1, none)
  else if ← accept (d.repeating "?") then return some (0, some 1)
  else if !d.counted then return none
  else
    let before ← get
    if ← accept (d.operator "\x7b") then
      if d.extended ∧ !d.strict then
        try
          return some (← d.counts)
        catch fault =>
          if fault = .bigCount ∨ (fault = .badCount ∧ before.rest.any (· == ',')) then throw fault
          set before
          return none
      else return some (← d.counts)
    else return none

/-- Puts the repetitions that follow around an expression. -/
def repeatedly (d : Dialect) : Nat → Regex → Read Regex
  | 0, r => return r
  | n + 1, r => do
    match ← d.repetition? with
    | none => return r
    | some (least, most) =>
      if d.strict ∧ !d.extended then
        let next := (← get).rest
        if next.head? = some '*' ∨ "\\\x7b".toList.isPrefixOf next then throw .nothingToRepeat
      repeatedly d n (.repeated r least most)

/-! ### Expressions -/

/-- The expression that a letter behind a backslash stands for. -/
def special? (d : Dialect) (c : Char) : Option Regex :=
  let isWhite (c : Char) : Bool := c == ' ' || ('\t' ≤ c && c ≤ '\r')
  if d.words then
    match c with
    | 'w' => some (.one isWordChar)
    | 'W' => some (.one (!isWordChar ·))
    | 's' => some (.one isWhite)
    | 'S' => some (.one (!isWhite ·))
    | '<' => some (.anchor .wordStart)
    | '>' => some (.anchor .wordEnd)
    | 'b' => some (.anchor .wordEdge)
    | 'B' => some (.anchor .noWordEdge)
    | '\x60' => some (.anchor .textStart)
    | '\'' => some (.anchor .textEnd)
    | _ => none
  else none

/-- Whether an operator would be repeated here, where nothing stands in front of it. -/
def startsWithRepetition (d : Dialect) (t : Text) : Bool :=
  d.extended && ["*", "+", "?", "\x7b"].any fun o => o.toList.isPrefixOf t

def lineStart (d : Dialect) : Regex := .anchor (if d.manyLines then .lineStart else .textStart)

def lineEnd (d : Dialect) : Regex := .anchor (if d.manyLines then .lineEnd else .textEnd)

/-- Whether nothing but the end of a sequence follows. -/
def isSequenceEnd (d : Dialect) (t : Text) : Bool :=
  t.isEmpty || (d.operator "|").toList.isPrefixOf t || (d.operator ")").toList.isPrefixOf t

mutual

def choice (d : Dialect) : Nat → Nat → Read Regex
  | 0, _ => throw .openGroup
  | n + 1, depth => do
    let first ← sequence d n depth true []
    if ← accept (d.operator "|") then
      match ← choice d n depth with
      | .choice others => return .choice (first :: others)
      | other => return .choice [first, other]
    else return first

def sequence (d : Dialect) : Nat → Nat → Bool → List Regex → Read Regex
  | 0, _, _, _ => throw .openGroup
  | n + 1, depth, first, found => do
    let done : Regex := match found with
      | [one] => one
      | _ => .sequence found.reverse
    let t := (← get).rest
    if t.isEmpty ∨ (d.operator "|").toList.isPrefixOf t then return done
    else if (d.operator ")").toList.isPrefixOf t then
      if 0 < depth then return done
      else if d.extended ∧ !d.strict then
        drop 1
        sequence d n depth false (d.literal ')' :: found)
      else throw .closedGroup
    else if d.startsWithRepetition t ∧ first then
      if d.strict then throw .nothingToRepeat
      else if t.head? = some '\x7b' then
        drop 1
        sequence d n depth false (d.literal '\x7b' :: found)
      else
        drop 1
        sequence d n depth true found
    else
      match t with
      | '^' :: rest =>
        if d.extended ∨ first then
          drop 1
          let stays := d.extended || rest.head? == some '*'
          sequence d n depth stays (d.lineStart :: found)
        else
          drop 1
          sequence d n depth false ((← d.repeatedly t.length (d.literal '^')) :: found)
      | '$' :: rest =>
        drop 1
        if d.extended ∨ d.isSequenceEnd rest then sequence d n depth d.extended (d.lineEnd :: found)
        else sequence d n depth false ((← d.repeatedly t.length (d.literal '$')) :: found)
      | '*' :: _ =>
        drop 1
        sequence d n depth false ((← d.repeatedly t.length (d.literal '*')) :: found)
      | _ =>
        let part ← atom d n depth
        match part with
        | .anchor _ => sequence d n depth (first && d.strict) (part :: found)
        | _ => sequence d n depth false ((← d.repeatedly t.length part) :: found)

def atom (d : Dialect) : Nat → Nat → Read Regex
  | 0, _ => throw .openGroup
  | n + 1, depth => do
    if ← accept (d.operator "(") then
      let number := (← get).groups + 1
      modify ({ · with groups := number })
      let inner ← choice d n (depth + 1)
      if !(← accept (d.operator ")")) then throw .openGroup
      modify fun r => { r with closed := number :: r.closed }
      return .group number inner
    else
      match (← get).rest with
      | '[' :: _ =>
        drop 1
        d.bracket
      | '.' :: _ =>
        drop 1
        return .one fun _ => true
      | ['\\'] => throw .endsInBackslash
      | '\\' :: c :: _ =>
        drop 2
        if c.isDigit ∧ c ≠ '0' ∧ !d.quotedSets then
          let number := c.toNat - '0'.toNat
          if (← get).closed.contains number then return .copy number d.anyCase
          else throw .badCopy
        else if c = '\x7b' ∧ !d.extended then
          if d.strict then throw .nothingToRepeat else return d.literal c
        else
          match d.special? c, if d.letters then letterValue? c else none with
          | some r, _ => return r
          | none, some value => return d.literal value
          | none, none => return d.literal c
      | c :: _ =>
        drop 1
        return d.literal c
      | [] => return .sequence []

end

/-- Reads the text of an expression, and gives the number of its groups as well. -/
def read (d : Dialect) (t : Text) : Except Fault (Regex × Nat) :=
  match (d.choice (4 * t.length + 8) 0).run { rest := t } with
  | .ok r after => .ok (r, after.groups)
  | .error fault _ => .error fault

end Dialect
end LineShell.Regex
