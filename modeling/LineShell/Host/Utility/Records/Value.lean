import LineShell.Host.Number.Directive
import LineShell.Host.Number.Elementary

/-!
The values of a report: numbers and texts, each of which is the other one as well when that is
needed.
-/
namespace LineShell.Records

inductive Value
  /-- Nothing has been assigned: it is zero and it is empty. -/
  | unset
  | number (q : Quantity)
  | text (t : Text)
  /-- A text that came from outside. It is a number if it looks like one. -/
  | given (t : Text)

instance : Inhabited Value := ⟨.unset⟩

def Value.ofInt (i : Int) : Value := .number (.ofInt .double i)

def Value.ofBool (b : Bool) : Value := .number (.ofNat b.toNat)

def isBlank (c : Char) : Bool := c == ' ' || c == '\t' || c == '\x0b' || c == '\x0c' || c == '\r'

def numberOf (t : Text) : Quantity := ((Quantity.read .double t).map (·.quantity)).getD (.ofNat 0)

/-- The number that a text from outside looks like: nothing but space stands around it, and it ends
in a digit or a point. -/
def apparent? (t : Text) : Option Quantity :=
  let t := ((t.dropWhile isBlank).reverse.dropWhile isBlank).reverse
  let begins := t.head?.any fun c => c.isDigit || c == '.' || c == '+' || c == '-'
  let ends := t.getLast?.any fun c => c.isDigit || c == '.'
  if begins && ends then
    match Quantity.read .double t with
    | some ⟨q, [], _⟩ => some q
    | _ => none
  else none

/-- A whole number that a computer word can hold, as an integer: numbers that are larger than any
with a sign lose theirs. -/
def wholeOf? (q : Quantity) : Option Int :=
  match q.value? with
  | some x =>
    if x.den ≠ 1 then none
    else if x < -(Nat.pow 2 63 : Nat) ∨ (Nat.pow 2 64 : Nat) < x then none
    else some (min x.num (Int.pow 2 64 - 1))
  | none => none

/-- A number as text: whole numbers in full, and others in a format. -/
def textOfNumber (format : Quantity → Text) (q : Quantity) : Text :=
  match wholeOf? q with
  | some i => Text.signed i
  | none => format q

namespace Value

def toNumber : Value → Quantity
  | .unset => .ofNat 0
  | .number q => q
  | .text t | .given t => numberOf t

def toText (format : Quantity → Text) : Value → Text
  | .unset => []
  | .number q => textOfNumber format q
  | .text t | .given t => t

/-- A value whose kind does not depend on what it looks like. -/
def settled : Value → Value
  | .given t =>
    match apparent? t with
    | some q => .number q
    | none => .text t
  | v => v

/-- Whether a value counts as true: a number that is not zero, or a text that is not empty. -/
def isTrue (v : Value) : Bool :=
  match v.settled with
  | .number q => !q.isEqual (.ofNat 0)
  | .text t => !t.isEmpty
  | _ => false

end Value

inductive Relation
  | less
  | lessOrEqual
  | equal
  | different
  | greater
  | greaterOrEqual
  deriving DecidableEq

/-- Whether a relation holds between two numbers. What is no number is not below anything and not
above it. -/
def Relation.holdsFor (r : Relation) (a b : Quantity) : Bool :=
  match r with
  | .less => a.isLess b
  | .lessOrEqual => !b.isLess a
  | .equal => !a.isLess b && !b.isLess a
  | .different => a.isLess b || b.isLess a
  | .greater => b.isLess a
  | .greaterOrEqual => !a.isLess b

def Relation.holdsForTexts (r : Relation) (a b : Text) : Bool :=
  match r with
  | .less => a < b
  | .lessOrEqual => Text.isAtMost a b
  | .equal => a == b
  | .different => a != b
  | .greater => b < a
  | .greaterOrEqual => Text.isAtMost b a

/-- Whether a relation holds: between texts if one of the values is nothing but a text, and else
between numbers. -/
def Relation.holds (r : Relation) (format : Quantity → Text) (a b : Value) : Bool :=
  match a.settled, b.settled with
  | .text _, _ | _, .text _ => r.holdsForTexts (a.toText format) (b.toText format)
  | x, y => r.holdsFor x.toNumber y.toNumber

end LineShell.Records
