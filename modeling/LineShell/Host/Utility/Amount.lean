import LineShell.Host.Utility.Basic

/-!
Amounts as arguments give them: a number in one of three bases, perhaps with a unit behind it.
-/
namespace LineShell.Utility

inductive AmountFault
  | malformed
  | unit
  | excessive
  deriving DecidableEq

namespace AmountFault

/-- What is said of the argument of an option that is wrong. -/
def message (fault : AmountFault) (option t : Text) : Text :=
  let shown := option ++ " argument ".toList ++ quotePlainly t
  match fault with
  | .malformed => "invalid ".toList ++ shown
  | .unit => "invalid suffix in ".toList ++ shown
  | .excessive => shown ++ " too large".toList

end AmountFault

namespace Amount

/-- The base that a number is written in, and its digits, when the base is to be told from it. -/
def written : Text → Nat × Text
  | '0' :: x :: c :: rest =>
    if (x = 'x' ∨ x = 'X') ∧ Quantity.digitValue c < 16 then (16, c :: rest) else (8, '0' :: x :: c :: rest)
  | '0' :: rest => (8, '0' :: rest)
  | t => (10, t)

def exponents : List (Char × Nat) :=
  [('B', 1), ('k', 1), ('K', 1), ('m', 2), ('M', 2), ('g', 3), ('G', 3), ('t', 4), ('T', 4), ('P', 5),
    ('E', 6), ('Z', 7), ('Y', 8), ('R', 9), ('Q', 10)]

/-- The factor of a unit, one of some letters. With a zero among the letters a second letter says
which powers are meant. -/
def factor (units : String) : Text → Except AmountFault Nat
  | [] => .ok 1
  | c :: rest =>
    if !units.toList.contains c then .error .unit
    else
      let (base, rest) := match units.toList.contains '0', rest with
        | true, 'i' :: 'B' :: rest => (1024, rest)
        | true, 'B' :: rest | true, 'D' :: rest => (1000, rest)
        | _, rest => (1024, rest)
      let value := match c with
        | 'b' => 512
        | 'c' => 1
        | 'w' => 2
        | _ => Nat.pow base ((exponents.lookup c).getD 0)
      if rest = [] then .ok value else .error .unit

def limit : Nat := Nat.pow 2 64

/-- Reads an amount; in base zero the number tells its base itself. -/
def read (base : Nat) (units : String) (t : Text) : Except AmountFault Nat :=
  let t := t.dropWhile isWhite
  let (base, body) := if base = 0 then written (if t.head? = some '+' then t.drop 1 else t)
    else (base, if t.head? = some '+' then t.drop 1 else t)
  let digits := body.takeWhile (Quantity.digitValue · < base)
  let n := Quantity.digitsValue base digits
  let rest := body.drop digits.length
  let whole (n : Nat) : Except AmountFault Nat :=
    match factor units rest with
    | .error fault => .error fault
    | .ok f => if limit ≤ n * f then .error .excessive else .ok (n * f)
  if digits = [] then
    if rest.head?.any units.toList.contains then whole 1 else .error .malformed
  else whole n

end Amount
end LineShell.Utility
