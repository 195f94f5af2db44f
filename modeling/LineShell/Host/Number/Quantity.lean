import LineShell.Text.Basic

/-!
Numbers as programs calculate with them: exact values on a binary grid, with infinities and with a
value that is no number. A text is read to the value of the grid nearest to what it writes.
-/
namespace LineShell

inductive Quantity
  /-- A sign, which zero has as well, and the value without it. -/
  | finite (negative : Bool) (size : Rat)
  | infinite (negative : Bool)
  | undefined (negative : Bool)
  deriving DecidableEq

/-- The numbers that there are: those of so many binary digits, the first of which stands for a
power of two between two bounds. Below the lower one digits get lost. -/
structure Grid where
  digits : Nat
  least : Int
  greatest : Int

namespace Grid

def double : Grid := ⟨53, -1022, 1023⟩

def extended : Grid := ⟨64, -16382, 16383⟩

end Grid

def power (base : Nat) (e : Int) : Rat :=
  match e with
  | .ofNat n => (Nat.pow base n : Nat)
  | .negSucc n => mkRat 1 (Nat.pow base (n + 1))

/-- The whole number nearest to a value that is not negative, of two the even one. -/
def roundHalfEven (x : Rat) : Nat :=
  let n := x.num.toNat
  let q := n / x.den
  let twice := 2 * (n % x.den)
  if twice < x.den ∨ (twice = x.den ∧ q % 2 = 0) then q else q + 1

/-- The exponent of the greatest power of a base that is not above a positive value. -/
def exponent (base : Nat) (x : Rat) : Int :=
  let length (n : Nat) : Int := if base = 2 then n.log2 + 1 else (Nat.toDigits base n).length
  let guess := length x.num.toNat - length x.den
  if power base guess ≤ x then guess else guess - 1

namespace Grid

def nearest (g : Grid) (negative : Bool) (x : Rat) : Quantity :=
  if x ≤ 0 then .finite negative 0
  else
    let unit := power 2 (max (exponent 2 x) g.least - (g.digits - 1))
    let rounded := (roundHalfEven (x / unit) : Rat) * unit
    if power 2 (g.greatest + 1) ≤ rounded then .infinite negative else .finite negative rounded

/-- Decimal exponents beyond this one stand for more than any number, or for less. -/
def exponentLimit : Nat := 100000

/-- The number of the grid that digits of a base stand for, multiplied with a power of another. -/
def scaled (g : Grid) (negative : Bool) (digits factor : Nat) (e : Int) : Quantity :=
  if digits = 0 then .finite negative 0
  else if (exponentLimit : Int) < e then .infinite negative
  else if e < -(exponentLimit : Int) then .finite negative 0
  else g.nearest negative (digits * power factor e)

end Grid

/-- What has been read at the front of a text. -/
structure Quantity.Reading where
  quantity : Quantity
  rest : Text
  /-- The text writes a number that is too large, or so small that digits of it got lost. -/
  isOutOfRange : Bool := false

namespace Quantity

def digitValue (c : Char) : Nat :=
  if c.isDigit then c.toNat - '0'.toNat
  else if c.isLower then c.toNat - 'a'.toNat + 10
  else if c.isUpper then c.toNat - 'A'.toNat + 10
  else 99

def digitsValue (base : Nat) (t : Text) : Nat := t.foldl (fun n c => n * base + digitValue c) 0

/-- Takes digits with perhaps a point among them: the digits, how many of them are behind the point,
and what follows. -/
def takeDigits (base : Nat) (t : Text) : Text × Nat × Text :=
  let isDigit (c : Char) : Bool := digitValue c < base
  let whole := t.takeWhile isDigit
  match t.drop whole.length with
  | '.' :: rest =>
    let fraction := rest.takeWhile isDigit
    if whole = [] ∧ fraction = [] then ([], 0, t)
    else (whole ++ fraction, fraction.length, rest.drop fraction.length)
  | rest => (whole, 0, rest)

/-- Takes an exponent behind one of two letters, if a number follows it. -/
def takeExponent (lower upper : Char) (t : Text) : Int × Text :=
  match t with
  | c :: rest =>
    if c ≠ lower ∧ c ≠ upper then (0, t)
    else
      let (negative, digits) := match rest with
        | '-' :: digits => (true, digits)
        | '+' :: digits => (false, digits)
        | _ => (false, rest)
      let number := digits.takeWhile Char.isDigit
      if number = [] then (0, t)
      else
        let n : Int := digitsValue 10 number
        (if negative then -n else n, digits.drop number.length)
  | [] => (0, t)

def takeWord? (word : String) (t : Text) : Option Text :=
  if (t.take word.length).map Char.toLower = word.toList then some (t.drop word.length) else none

/-- Whether rounding to a grid has lost more than its precision asks for. -/
def isLost (g : Grid) (digits factor : Nat) (e : Int) : Quantity → Bool
  | infinite _ => true
  | finite _ size => digits ≠ 0 && size < power 2 g.least &&
    (size == 0 || size != (digits : Rat) * power factor e)
  | undefined _ => false

/-- Reads digits of a base, with an exponent behind a letter. -/
def readDigits (g : Grid) (negative : Bool) (base factor step : Nat) (letter : Char) (t : Text) :
    Option Reading :=
  match takeDigits base t with
  | ([], _, _) => none
  | (digits, places, rest) =>
    let (e, rest) := takeExponent letter letter.toUpper rest
    let n := digitsValue base digits
    let e := e - step * places
    let quantity := g.scaled negative n factor e
    some { quantity, rest, isOutOfRange := isLost g n factor e quantity }

def readPositive (g : Grid) (negative : Bool) (t : Text) : Option Reading :=
  match takeWord? "infinity" t <|> takeWord? "inf" t with
  | some rest => some ⟨.infinite negative, rest, false⟩
  | none =>
    match takeWord? "nan" t with
    | some ('(' :: more) =>
      let name := more.takeWhile fun c => c.isAlphanum || c == '_'
      match more.drop name.length with
      | ')' :: rest => some ⟨.undefined negative, rest, false⟩
      | _ => some ⟨.undefined negative, '(' :: more, false⟩
    | some rest => some ⟨.undefined negative, rest, false⟩
    | none =>
      let decimal := readDigits g negative 10 10 1 'e' t
      match t with
      | '0' :: x :: rest =>
        if x ≠ 'x' ∧ x ≠ 'X' then decimal
        else (readDigits g negative 16 2 4 'p' rest).orElse fun _ => decimal
      | _ => decimal

/-- Reads the number at the front of a text, behind white space and a sign. -/
def read (g : Grid) (t : Text) : Option Reading :=
  match t.dropWhile fun c => c == ' ' || ('\t' ≤ c && c ≤ '\r') with
  | '-' :: rest => readPositive g true rest
  | '+' :: rest => readPositive g false rest
  | rest => readPositive g false rest

/-- Whether there is a minus in front of the number. -/
def isNegative : Quantity → Bool
  | finite negative _ | infinite negative | undefined negative => negative

def value? : Quantity → Option Rat
  | finite negative size => some (if negative then -size else size)
  | _ => none

def ofRat (g : Grid) (x : Rat) : Quantity := g.nearest (decide (x < 0)) (if x < 0 then -x else x)

def isLess : Quantity → Quantity → Bool
  | infinite true, b => b != infinite true && !(b matches undefined _)
  | a, infinite false => a != infinite false && !(a matches undefined _)
  | a, b =>
    match a.value?, b.value? with
    | some x, some y => decide (x < y)
    | _, _ => false

def ofInt (g : Grid) (i : Int) : Quantity := g.nearest (decide (i < 0)) (i.natAbs : Rat)

end Quantity
end LineShell
