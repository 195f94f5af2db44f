import LineShell.Host.Number.Quantity

/-!
Calculation with numbers of limited precision. Every result is the number of the grid nearest to the
exact one; what no grid can hold, such as a sine, is first found with more binary digits than the
grid has.
-/
namespace LineShell.Quantity

def invalid : Quantity := .undefined true

def ofNat (n : Nat) : Quantity := .finite false n

/-- The number of the grid nearest to a value; zero gets the sign that is asked for. -/
def rounded (g : Grid) (zeroIsNegative : Bool) (x : Rat) : Quantity :=
  if x = 0 then .finite zeroIsNegative 0
  else
    let negative := decide (x < 0)
    let size := if negative then -x else x
    if size.den = 1 ∧ size.num.toNat < Nat.pow 2 g.digits then .finite negative size
    else g.nearest negative size

def negated : Quantity → Quantity
  | .finite negative x => .finite (!negative) x
  | .infinite negative => .infinite (!negative)
  | .undefined negative => .undefined (!negative)

def sum (g : Grid) : Quantity → Quantity → Quantity
  | .undefined s, _ => .undefined s
  | _, .undefined s => .undefined s
  | .infinite s, .infinite t => if s = t then .infinite s else invalid
  | .infinite s, _ => .infinite s
  | _, .infinite s => .infinite s
  | .finite s x, .finite t y =>
    rounded g (s && t) ((if s then -x else x) + (if t then -y else y))

def difference (g : Grid) (a b : Quantity) : Quantity :=
  match b with
  | .undefined _ => sum g a b
  | _ => sum g a b.negated

def product (g : Grid) : Quantity → Quantity → Quantity
  | .undefined s, _ => .undefined s
  | _, .undefined s => .undefined s
  | .finite s x, .finite t y =>
    let size := x * y
    if size = 0 then .finite (s != t) 0
    else rounded g false (if s = t then size else -size)
  | .infinite s, .finite t y => if y = 0 then invalid else .infinite (s != t)
  | .finite s x, .infinite t => if x = 0 then invalid else .infinite (s != t)
  | .infinite s, .infinite t => .infinite (s != t)

/-- How often the second number is in the first one. -/
def quotient (g : Grid) : Quantity → Quantity → Quantity
  | .undefined s, _ => .undefined s
  | _, .undefined s => .undefined s
  | .infinite _, .infinite _ => invalid
  | .infinite s, .finite t _ => .infinite (s != t)
  | .finite s _, .infinite t => .finite (s != t) 0
  | .finite s x, .finite t y =>
    if y = 0 then if x = 0 then invalid else .infinite (s != t)
    else if x = 0 then .finite (s != t) 0
    else rounded g false (if s = t then x / y else -(x / y))

/-- What division leaves, with the sign of the first number. -/
def remainder : Quantity → Quantity → Quantity
  | .undefined s, _ => .undefined s
  | _, .undefined s => .undefined s
  | .infinite _, _ => invalid
  | a, .infinite _ => a
  | .finite s x, .finite _ y => if y = 0 then invalid else .finite s (x - y * (x / y).floor)

def truncated : Quantity → Quantity
  | .finite s x => .finite s x.floor
  | q => q

/-- Whether two numbers are the same; both zeros are. -/
def isEqual (a b : Quantity) : Bool :=
  match a, b with
  | .finite s x, .finite t y => x == y && (s == t || x == 0)
  | .infinite s, .infinite t => s == t
  | _, _ => false

/-- The whole part as an integer within bounds; what is no number gets the lower one. -/
def toIntWithin (least most : Int) : Quantity → Int
  | .undefined _ => least
  | .infinite negative => if negative then least else most
  | .finite negative x => max least (min most (if negative then -x.floor else x.floor))

/-! ### Numbers with a fixed number of binary digits behind the point -/

/-- A value times a power of two, without what is behind the point. -/
def toFixed (bits : Nat) (x : Rat) : Int := (x * power 2 bits).floor

/-- The value of a number with so many binary digits behind the point. -/
def ofFixed (bits : Nat) (n : Int) : Rat := n * power 2 (-(bits : Int))

def scale (bits : Nat) (a b : Int) : Int := a * b / Int.pow 2 bits

/-- The terms of a series added up, the next one made from the last, until they vanish. -/
def addTerms (next : Nat → Int → Int) : Nat → Nat → Int → Int → Int
  | 0, _, _, total => total
  | fuel + 1, k, term, total =>
    if term = 0 ∨ term = -1 then total
    else addTerms next fuel (k + 1) (next k term) (total + term)

/-- The exponential of a number of at most one, as a series. -/
def fixedExp (bits : Nat) (r : Int) : Int :=
  addTerms (fun k term => scale bits term r / (k + 1)) (4 * bits) 0 (Int.pow 2 bits) 0

/-- The sum of odd powers of a number over their exponents, with alternating signs or not. -/
def oddSeries (bits : Nat) (alternates : Bool) (z : Int) : Int :=
  let square := scale bits z z
  let rec go : Nat → Nat → Int → Int → Int
    | 0, _, _, total => total
    | fuel + 1, k, term, total =>
      if term = 0 ∨ term = -1 then total
      else
        let part := term / (2 * k + 1)
        go fuel (k + 1) (scale bits term square)
          (if alternates ∧ k % 2 = 1 then total - part else total + part)
  go (4 * bits) 0 z 0

def fixedLogTwo (bits : Nat) : Int := 2 * oddSeries bits false (Int.pow 2 bits / 3)

/-- The ratio of a circle's circumference to its diameter. -/
def fixedPi (bits : Nat) : Int :=
  let more := bits + 16
  4 * (4 * oddSeries more true (Int.pow 2 more / 5) - oddSeries more true (Int.pow 2 more / 239)) / Int.pow 2 16

/-- The greatest whole number whose square is not above a number, sought from above. -/
def squareRoot (n : Nat) : Nat :=
  let rec go : Nat → Nat → Nat
    | 0, x => x
    | fuel + 1, x =>
      let y := (x + n / x) / 2
      if y < x then go fuel y else x
  if n = 0 then 0 else go (n.log2 + 8) (Nat.pow 2 (n.log2 / 2 + 1))

/-- Binary digits behind the point that are enough for every result. -/
def workBits : Nat := 256

/-! ### Functions -/

def sqrt (g : Grid) : Quantity → Quantity
  | .undefined s => .undefined s
  | .infinite negative => if negative then invalid else .infinite false
  | .finite negative x =>
    if x = 0 then .finite negative 0
    else if negative then invalid
    else
      let shift : Int := workBits - exponent 2 x / 2
      let scaled := x * power 2 (2 * shift)
      let whole := scaled.floor.toNat
      let root := squareRoot whole
      let isExact := (root * root : Nat) = scaled
      rounded g false (((2 * root + if isExact then 0 else 1 : Nat) : Rat) * power 2 (-shift - 1))

/-- Beyond this the exponential is infinite, and zero on the other side. -/
def expLimit : Rat := 20000

/-- The exponential of a value, near enough for rounding. -/
def expOf (x : Rat) : Rat :=
  let bits := workBits
  let logTwo := fixedLogTwo (bits + 32)
  let fixed := toFixed (bits + 32) x
  let k := fixed / logTwo
  let r := (fixed - k * logTwo) / Int.pow 2 32
  ofFixed bits (fixedExp bits r) * power 2 k

def exp (g : Grid) : Quantity → Quantity
  | .undefined s => .undefined s
  | .infinite negative => if negative then .finite false 0 else .infinite false
  | .finite negative x =>
    if expLimit < x then if negative then .finite false 0 else .infinite false
    else g.nearest false (expOf (if negative then -x else x))

/-- The natural logarithm of a positive value, near enough for rounding. -/
def logOf (x : Rat) : Rat :=
  let bits := workBits
  let e := exponent 2 x
  let m := x * power 2 (-e)
  let (e, m) := if 4 < 3 * m then (e + 1, m / 2) else (e, m)
  ofFixed bits (2 * oddSeries bits false (toFixed bits ((m - 1) / (m + 1))) + e * fixedLogTwo bits)

def log (g : Grid) : Quantity → Quantity
  | .undefined s => .undefined s
  | .infinite negative => if negative then invalid else .infinite false
  | .finite negative x =>
    if x = 0 then .infinite true else if negative then invalid else rounded g false (logOf x)

/-- Whether a number is whole, and whether it is odd. -/
def wholeness : Quantity → Bool × Bool
  | .finite _ x => (x.den == 1, x.den == 1 && x.num % 2 == 1)
  | .infinite _ => (true, false)
  | .undefined _ => (false, false)

def powerOf (g : Grid) (negative : Bool) (x y : Rat) : Quantity :=
  let size := logOf x * y
  if expLimit < size then .infinite negative
  else if size < -expLimit then .finite negative 0
  else if y.den = 1 ∧ y.num.natAbs ≤ 4096 then
    let whole := Rat.pow x y.num.natAbs
    g.nearest negative (if y < 0 then 1 / whole else whole)
  else g.nearest negative (expOf size)

def raised (g : Grid) (a b : Quantity) : Quantity :=
  let one := ofNat 1
  let (isWhole, isOdd) := wholeness b
  match a, b with
  | _, .finite _ 0 => one
  | .finite false 1, _ => one
  | .undefined s, _ => .undefined s
  | _, .undefined s => .undefined s
  | .finite _ x, .infinite t =>
    if x = 1 then one
    else if decide (x < 1) = t then .infinite false
    else .finite false 0
  | .infinite s, b =>
    let negative := s && isOdd
    if b.isNegative then .finite negative 0 else .infinite negative
  | .finite s x, .finite t y =>
    let negative := s && isOdd
    if x = 0 then if t then .infinite negative else .finite negative 0
    else if s ∧ !isWhole then invalid
    else powerOf g negative x (if t then -y else y)

/-- The sine and the cosine of a value, near enough for rounding unless it is very near to zero. -/
def circular (x : Rat) : Rat × Rat :=
  let bits := workBits
  let more := bits + (exponent 2 (if x < 0 then -x else x) + 1).toNat + 8
  let half := fixedPi more / 2
  let fixed := toFixed more x
  let k := (2 * fixed + half) / (2 * half)
  let r := (fixed - k * half) / Int.pow 2 (more - bits)
  let square := scale bits r r
  let sine := addTerms (fun k term => -(scale bits term square) / ((2 * k + 2) * (2 * k + 3)))
    (4 * bits) 0 r 0
  let cosine := addTerms (fun k term => -(scale bits term square) / ((2 * k + 1) * (2 * k + 2)))
    (4 * bits) 0 (Int.pow 2 bits) 0
  let (s, c) := match k % 4 with
    | 0 => (sine, cosine)
    | 1 => (cosine, -sine)
    | 2 => (-sine, -cosine)
    | _ => (-cosine, sine)
  (ofFixed bits s, ofFixed bits c)

/-- Below this a power of a value can be left out of its sine and its arc. -/
def tiny : Rat := power 2 (-60)

def sin (g : Grid) : Quantity → Quantity
  | .undefined s => .undefined s
  | .infinite _ => invalid
  | .finite negative x =>
    if x = 0 then .finite negative 0
    else
      let size := if x < tiny then x - x * x * x / 6 else (circular x).1
      rounded g negative (if negative then -size else size)

def cos (g : Grid) : Quantity → Quantity
  | .undefined s => .undefined s
  | .infinite _ => invalid
  | .finite _ x => if x < tiny then ofNat 1 else rounded g false (circular x).2

/-- The angle whose tangent a positive value of at most one is. -/
def arcOf (t : Rat) : Rat :=
  if t < tiny then t - t * t * t / 3
  else
    let bits := workBits
    let one : Int := Int.pow 2 bits
    let halve (z : Int) : Int :=
      let root : Int := squareRoot ((one + scale bits z z) * one).toNat
      z * one / (one + root)
    ofFixed bits (8 * oddSeries bits true (halve (halve (halve (toFixed bits t)))))

/-- The angle of a point, of which first the height is given. -/
def atan2 (g : Grid) (a b : Quantity) : Quantity :=
  let pi := ofFixed workBits (fixedPi workBits)
  let signed (negative : Bool) (x : Rat) : Quantity :=
    rounded g negative (if negative then -x else x)
  match a, b with
  | .undefined s, _ => .undefined s
  | _, .undefined s => .undefined s
  | .infinite s, .infinite t => signed s (if t then 3 * pi / 4 else pi / 4)
  | .infinite s, _ => signed s (pi / 2)
  | .finite s _, .infinite t => signed s (if t then pi else 0)
  | .finite s y, .finite t x =>
    if y = 0 then signed s (if t then pi else 0)
    else if x = 0 then signed s (pi / 2)
    else
      let first := if y ≤ x then arcOf (y / x) else pi / 2 - arcOf (x / y)
      signed s (if t then pi - first else first)

end LineShell.Quantity
