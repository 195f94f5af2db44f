import LineShell.Host.Number.Quantity

/-!
How numbers are written: in a width, with a number of digits, and in one of several notations. What
a notation leaves out is rounded off, half to the even digit.
-/
namespace LineShell

/-- A directive behind `%`: its flags, its width and its precision. -/
structure Directive where
  flags : Text := []
  width : Nat := 0
  precision : Option Nat := none

namespace Directive

def has (d : Directive) (flag : Char) : Bool := d.flags.contains flag

def pad (d : Directive) (t : Text) : Text :=
  let space := List.replicate (d.width - t.length) ' '
  if d.has '-' then t ++ space else space ++ t

def text (d : Directive) (t : Text) : Text :=
  d.pad (match d.precision with
    | some n => t.take n
    | none => t)

/-! ### Whole numbers -/

/-- The digits of a number behind a sign, filled up with zeros as far as asked for. -/
def number (d : Directive) (sign digits : Text) : Text :=
  let digits := match d.precision with
    | some 0 => if digits = ['0'] then [] else digits
    | some n => List.replicate (n - digits.length) '0' ++ digits
    | none =>
      if d.has '0' ∧ !d.has '-' then
        List.replicate (d.width - sign.length - digits.length) '0' ++ digits
      else digits
  d.pad (sign ++ digits)

def sign (d : Directive) (negative : Bool) : Text :=
  if negative then ['-'] else if d.has '+' then ['+'] else if d.has ' ' then [' '] else []

def signed (d : Directive) (i : Int) : Text :=
  d.number (d.sign (decide (i < 0))) (Text.decimal i.natAbs)

/-- A number without sign, in the base that the letter stands for. -/
def unsigned (d : Directive) (letter : Char) (n : Nat) : Text :=
  match letter with
  | 'o' =>
    let digits := Nat.toDigits 8 n
    let needed := d.has '#' && digits.head? != some '0' && d.precision.all (· ≤ digits.length)
    d.number [] (if needed then '0' :: digits else digits)
  | 'x' => d.number (if d.has '#' ∧ n ≠ 0 then ['0', 'x'] else []) (Nat.toDigits 16 n)
  | 'X' =>
    d.number (if d.has '#' ∧ n ≠ 0 then ['0', 'X'] else [])
      ((Nat.toDigits 16 n).map Char.toUpper)
  | _ => d.number [] (Text.decimal n)

/-! ### Numbers with a fraction -/

def withPoint (d : Directive) (places : Nat) (digits : Text) : Text :=
  let digits := List.replicate (places + 1 - digits.length) '0' ++ digits
  if places = 0 then if d.has '#' then digits ++ ['.'] else digits
  else digits.take (digits.length - places) ++ '.' :: digits.drop (digits.length - places)

def positional (d : Directive) (places : Nat) (x : Rat) : Text :=
  d.withPoint places (Text.decimal (roundHalfEven (x * power 10 places)))

/-- The digits of a value, one more than so many places, and the power of ten that the first of them
stands for. -/
def leading (places : Nat) (x : Rat) : Text × Int :=
  if x ≤ 0 then (List.replicate (places + 1) '0', 0)
  else
    let e := exponent 10 x
    let n := roundHalfEven (x * power 10 (places - e))
    if n = Nat.pow 10 (places + 1) then (Text.decimal (n / 10), e + 1) else (Text.decimal n, e)

/-- A power of ten behind a letter, with two digits at least. -/
def powerOfTen (letter : Char) (e : Int) : Text :=
  let digits := Text.decimal e.natAbs
  letter :: (if e < 0 then '-' else '+') :: List.replicate (2 - digits.length) '0' ++ digits

/-- A value with one digit in front of the point, and a power of ten. -/
def scientific (d : Directive) (letter : Char) (places : Nat) (x : Rat) : Text :=
  let (digits, e) := leading places x
  d.withPoint places digits ++ powerOfTen letter e

/-- Leaves out zeros at the end of a fraction, and the point if nothing is left behind it. -/
def withoutEndZeros (t : Text) : Text :=
  if !t.contains '.' then t
  else
    match t.reverse.dropWhile (· == '0') with
    | '.' :: rest => rest.reverse
    | rest => rest.reverse

/-- A value with so many digits in all, in the shorter of both notations. -/
def general (d : Directive) (letter : Char) (digits : Nat) (x : Rat) : Text :=
  let digits := max digits 1
  let trim (t : Text) : Text := if d.has '#' then t else withoutEndZeros t
  let (ds, e) := leading (digits - 1) x
  if -4 ≤ e ∧ e < digits then trim (d.positional ((digits : Int) - 1 - e).toNat x)
  else trim (d.withPoint (digits - 1) ds) ++ powerOfTen letter e

/-- A value in base 16 with a power of two; `lead` is how many binary digits the first digit has. -/
def hexadecimal (d : Directive) (g : Grid) (lead : Nat) (x : Rat) : Text :=
  let hidden := (g.digits - lead + 3) / 4
  let (e, n, places) : Int × Nat × Nat :=
    if x ≤ 0 then (0, 0, d.precision.getD 0)
    else
      let e := max (exponent 2 x) g.least - (lead - 1)
      let places := d.precision.getD hidden
      let n := roundHalfEven (x * power 2 (4 * places - e))
      if n < Nat.pow 16 (places + 1) then (e, n, places) else (e + 4, n / 16, places)
  let digits := Nat.toDigits 16 n
  let t := d.withPoint places digits
  let t := if d.precision.isNone ∧ !d.has '#' then withoutEndZeros t else t
  t ++ 'p' :: (if e < 0 then '-' else '+') :: Text.decimal e.natAbs

/-- A number in the notation of a letter. In base 16 the first digit of a number of 80 bits has four
binary digits, and else one. -/
def quantity (d : Directive) (g : Grid) (letter : Char) (q : Quantity) : Text :=
  let upper (t : Text) : Text := if letter.isUpper then t.map Char.toUpper else t
  let sign := d.sign q.isNegative
  let special (name : String) : Text :=
    { d with precision := none }.pad (sign ++ upper name.toList)
  match q with
  | .infinite _ => special "inf"
  | .undefined _ => special "nan"
  | .finite _ x =>
    let places := d.precision.getD 6
    let (before, digits) : Text × Text := match letter.toLower with
      | 'f' => ([], d.positional places x)
      | 'e' => ([], d.scientific 'e' places x)
      | 'a' => (['0', 'x'], d.hexadecimal g (if g.digits = 64 then 4 else 1) x)
      | _ => ([], d.general 'e' places x)
    { d with precision := none }.number (sign ++ upper before) (upper digits)

end Directive
end LineShell
