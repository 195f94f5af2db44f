import LineShell.Host.Script.Syntax

/-! Arithmetic on whole numbers of 64 bits, as `$((…))` writes it. -/
namespace LineShell.Script.Arithmetic

/-- The symbols that an expression consists of. -/
inductive Symbol
  | number (n : Int64)
  | name (t : Text)
  | operator (t : Text)
  deriving DecidableEq

/-- Longer operators stand before those that they begin with. -/
def operators : List Text :=
  ["<<=", ">>=", "<<", ">>", "<=", ">=", "==", "!=", "&&", "||", "+=", "-=", "*=", "/=", "%=", "&=",
    "|=", "^=", "<", ">", "=", "!", "&", "|", "^", "~", "+", "-", "*", "/", "%", "(", ")", "?",
    ":"].map String.toList

def digitValue (c : Char) : Nat :=
  if c.isDigit then c.toNat - '0'.toNat
  else if c.isLower then c.toNat - 'a'.toNat + 10
  else if c.isUpper then c.toNat - 'A'.toNat + 10
  else 99

/-- The digits of a base at the front, as a number, and the text behind them. -/
def digits (base : Nat) (t : Text) : Nat × Text :=
  let ds := t.takeWhile fun c => digitValue c < base
  (ds.foldl (fun n c => n * base + digitValue c) 0, t.drop ds.length)

/-- A number that is too large becomes the largest. -/
def clamp (i : Int) : Int64 :=
  Int64.ofInt (max (-9223372036854775808) (min 9223372036854775807 i))

/-- The number at the front: hexadecimal behind `0x`, octal behind another `0`, else decimal. -/
def readNumber (t : Text) : Nat × Text :=
  match t with
  | '0' :: 'x' :: c :: rest | '0' :: 'X' :: c :: rest =>
    if digitValue c < 16 then digits 16 (c :: rest) else (0, t.drop 1)
  | '0' :: _ => digits 8 t
  | _ => digits 10 t

/-- Reads the number at the front of a text, behind white space and a sign, and gives what
follows. -/
def readSigned (t : Text) : Option (Int × Text) :=
  let start := t.dropWhile fun c => c == ' ' || ('\t' ≤ c && c ≤ '\r')
  let (negative, digits) := match start with
    | '-' :: rest => (true, rest)
    | '+' :: rest => (false, rest)
    | _ => (false, start)
  let (value, rest) := readNumber digits
  if rest.length = digits.length then none
  else some (if negative then -(value : Int) else value, rest)

/-- Cuts an expression into symbols; what is none becomes an operator without meaning. -/
def symbols : Nat → Text → List Symbol
  | 0, _ => []
  | _ + 1, [] => []
  | n + 1, c :: rest =>
    if c = ' ' ∨ c = '\t' ∨ c = '\n' then symbols n rest
    else if c.isDigit then
      let (value, rest) := readNumber (c :: rest)
      .number (clamp value) :: symbols n rest
    else if isNameStart c then
      .name ((c :: rest).takeWhile isNameRest) :: symbols n ((c :: rest).dropWhile isNameRest)
    else
      match operators.find? (·.isPrefixOf (c :: rest)) with
      | some operator => .operator operator :: symbols n ((c :: rest).drop operator.length)
      | none => [.operator []]

/-- The value of a variable: a number with white space around it, and nothing counts as zero. -/
def valueOf? (t : Text) : Option Int64 :=
  let isSpace (c : Char) := c.isWhitespace || c == '\x0b' || c == '\x0c'
  match t.dropWhile isSpace with
  | [] => some 0
  | c :: rest =>
    let (negative, t) := if c = '-' then (true, rest) else if c = '+' then (false, rest)
      else (false, c :: rest)
    if t.head?.any Char.isDigit then
      let (value, rest) := readNumber t
      if rest.all isSpace then some (clamp (if negative then -(value : Int) else value)) else none
    else none

/-- The symbols that are left, and the variables with the values they have been given. -/
structure State where
  rest : List Symbol
  value? : Text → Option Text
  assigned : List (Text × Text) := []

inductive Fault
  /-- The value of a variable is no number. -/
  | illegal (value : Text)
  | malformed (reason : Text)
  /-- A quotient is too large. -/
  | overflow

/-- A part of an evaluation: it takes symbols, assigns variables, or fails. -/
abbrev Eval := StateT State (Except Fault)

def malformed {α : Type} (reason : String) : Eval α := throw (.malformed reason.toList)

def peek : Eval (Option Symbol) := return (← get).rest.head?

def advance : Eval Unit := modify fun s => { s with rest := s.rest.tail }

def accept (operator : Text) : Eval Bool := do
  if (← peek) = some (.operator operator) then
    advance
    return true
  else return false

/-- The value of a variable. One that is not set counts as zero. -/
def lookUp (name : Text) : Eval Int64 := do
  let s ← get
  match ((s.assigned.lookup name) <|> s.value? name) with
  | none => return 0
  | some text =>
    match valueOf? text with
    | some n => return n
    | none => throw (.illegal text)

def tightness? (operator : Text) : Option Nat :=
  match operator with
  | ['*'] | ['/'] | ['%'] => some 8
  | ['+'] | ['-'] => some 7
  | ['<', '<'] | ['>', '>'] => some 6
  | ['<'] | ['>'] | ['<', '='] | ['>', '='] => some 5
  | ['=', '='] | ['!', '='] => some 4
  | ['&'] => some 3
  | ['^'] => some 2
  | ['|'] => some 1
  | _ => none

def truth (b : Bool) : Int64 := if b then 1 else 0

/-- What an operator gives; a quotient by zero has no value. -/
def combine? (operator : Text) (a b : Int64) : Option Int64 :=
  match operator with
  | ['*'] => some (a * b)
  | ['/'] => if b = 0 then none else some (a / b)
  | ['%'] => if b = 0 then none else some (a % b)
  | ['+'] => some (a + b)
  | ['-'] => some (a - b)
  | ['<', '<'] => some (a <<< b)
  | ['>', '>'] => some (a >>> b)
  | ['<'] => some (truth (a < b))
  | ['>'] => some (truth (b < a))
  | ['<', '='] => some (truth (a ≤ b))
  | ['>', '='] => some (truth (b ≤ a))
  | ['=', '='] => some (truth (a == b))
  | ['!', '='] => some (truth (a != b))
  | ['&'] => some (a &&& b)
  | ['^'] => some (a ^^^ b)
  | ['|'] => some (a ||| b)
  | _ => none

/-- Whether the quotient of two numbers is too large, and there is no remainder either. -/
def overflows (operator : Text) (a b : Int64) : Bool :=
  (operator == ['/'] || operator == ['%']) && a == Int64.minValue && b == -1

/-- Applies an operator, unless the value does not count. -/
def operate (skipped : Bool) (operator : Text) (a b : Int64) : Eval Int64 :=
  if skipped then return b
  else if overflows operator a b then throw .overflow
  else
    match combine? operator a b with
    | some n => return n
    | none => malformed "division by zero"

mutual

/-- An operand behind any signs. Where `skipped` holds, its value does not count. -/
def operand : Nat → Bool → Eval Int64
  | 0, _ => malformed "expecting primary"
  | n + 1, skipped => do
    match ← peek with
    | some (.number value) =>
      advance
      return value
    | some (.name name) =>
      advance
      if skipped then return 0 else lookUp name
    | some (.operator ['(']) =>
      advance
      let value ← expression n skipped
      if ← accept [')'] then return value else malformed "expecting ')'"
    | some (.operator ['+']) =>
      advance
      operand n skipped
    | some (.operator ['-']) =>
      advance
      return -(← operand n skipped)
    | some (.operator ['!']) =>
      advance
      return truth ((← operand n skipped) == 0)
    | some (.operator ['~']) =>
      advance
      return ~~~(← operand n skipped)
    | _ => malformed "expecting primary"

/-- Applies the operators behind a value that bind at least as tightly as `level`. -/
def operations : Nat → Nat → Bool → Int64 → Eval Int64
  | 0, _, _, left => return left
  | n + 1, level, skipped, left => do
    match ← peek with
    | some (.operator operator) =>
      match tightness? operator with
      | none => return left
      | some tightness =>
        if tightness < level then return left
        else
          advance
          let right ← operand n skipped
          let right ← operations n (tightness + 1) skipped right
          operations n level skipped (← operate skipped operator left right)
    | _ => return left

/-- Operands joined by `&&`. What the skipped ones do does not count. -/
def conjunction : Nat → Bool → Eval Int64
  | 0, _ => malformed "expecting primary"
  | n + 1, skipped => do
    let a ← operations n 1 skipped (← operand n skipped)
    if ← accept ['&', '&'] then
      let b ← conjunction n (skipped || a == 0)
      return truth (a != 0 && b != 0)
    else return a

def disjunction : Nat → Bool → Eval Int64
  | 0, _ => malformed "expecting primary"
  | n + 1, skipped => do
    let a ← conjunction n skipped
    if ← accept ['|', '|'] then
      let b ← disjunction n (skipped || a != 0)
      return truth (a != 0 || b != 0)
    else return a

/-- A choice between two values, or a lone operand. -/
def conditional : Nat → Bool → Eval Int64
  | 0, _ => malformed "expecting primary"
  | n + 1, skipped => do
    let a ← disjunction n skipped
    if ← accept ['?'] then
      let b ← expression n (skipped || a == 0)
      if ← accept [':'] then
        let c ← conditional n (skipped || a != 0)
        return if a != 0 then b else c
      else malformed "expecting ':'"
    else return a

def expression : Nat → Bool → Eval Int64
  | 0, _ => malformed "expecting primary"
  | n + 1, skipped => do
    match (← get).rest with
    | .name name :: .operator operator :: _ =>
      let isAssignment := operator = ['='] ∨
        (operator.getLast? = some '=' ∧ (tightness? operator.dropLast).isSome ∧
          tightness? operator = none)
      if isAssignment then
        advance
        advance
        let right ← expression n skipped
        if skipped then return right
        else
          let value ← if operator = ['='] then pure right
            else do operate false operator.dropLast (← lookUp name) right
          modify fun s =>
            { s with assigned := (name, Text.signed value.toInt) :: s.assigned }
          return value
      else conditional n skipped
    | _ => conditional n skipped

end

/-- The value of an expression with the assignments made on the way, last first, or what is said if
it has none; nothing is said where a quotient is too large. -/
def eval (value? : Text → Option Text) (t : Text) :
    Except (Option Text) (Int64 × List (Text × Text)) :=
  let complete : Eval Int64 := do
    let value ← expression 100000 false
    if (← peek) = none then return value else malformed "expecting EOF"
  match complete { rest := symbols (t.length + 1) t, value? } with
  | .ok (value, s) => .ok (value, s.assigned)
  | .error (.illegal value) => .error (some ("Illegal number: ".toList ++ value))
  | .error (.malformed reason) =>
    .error (some ("arithmetic expression: ".toList ++ reason ++ ": \"".toList ++ t ++ ['"']))
  | .error .overflow => .error none

end LineShell.Script.Arithmetic
