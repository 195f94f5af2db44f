import LineShell.Text.Octets

/-!
Short numbers that stand for long texts: check sums, and digests that are made of the text block by
block. The constants in digests are digits of roots and of sines, and are calculated.
-/
namespace LineShell.Digest

/-! ### Bytes and numbers -/

/-- The number that bytes write, the first of which counts most. -/
def number (bytes : List Nat) : Nat := bytes.foldl (fun n b => 256 * n + b) 0

/-- The number that bytes write, the first of which counts least. -/
def numberReversed (bytes : List Nat) : Nat := bytes.foldr (fun b n => b + 256 * n) 0

/-- The bytes of a number, the first of which counts least. -/
def bytesReversed (count n : Nat) : List Nat := (List.range count).map fun i => n / Nat.pow 256 i % 256

/-- The bytes of a number, the first of which counts most. -/
def bytes (count n : Nat) : List Nat := (bytesReversed count n).reverse

/-- Pieces of so many elements; the last may be shorter. -/
def pieces {α : Type} (size : Nat) : Nat → List α → List (List α)
  | 0, _ => []
  | _, [] => []
  | fuel + 1, xs => xs.take size :: pieces size fuel (xs.drop size)

/-- A text as digests see it: with a mark behind it, and its length in bits in the last bytes of the
last block. -/
def padded (block lengthSize : Nat) (length : Nat → List Nat) (text : List Nat) : List Nat :=
  let used := text.length + 1 + lengthSize
  text ++ 128 :: List.replicate ((block - used % block) % block) 0 ++ length (8 * text.length)

def hexadecimal (bytes : List Nat) : Text :=
  bytes.flatMap fun b => [Nat.digitChar (b / 16), Nat.digitChar (b % 16)]

/-! ### Constants -/

/-- The greatest number whose power is not above `n`, found bit by bit. -/
def root (power n : Nat) : Nat → Nat → Nat
  | 0, found => found
  | bit + 1, found =>
    let more := found + Nat.pow 2 bit
    root power n bit (if Nat.pow more power ≤ n then more else found)

def primes : List Nat :=
  (List.range 410).filter fun n => 2 ≤ n && (List.range 20).all fun d => d < 2 || n == d || n % d != 0

/-- So many binary digits behind the point of a root. -/
def rootDigits (power digits n : Nat) : Nat :=
  root power (n * Nat.pow 2 (power * digits)) (digits + 8) 0 % Nat.pow 2 digits

/-- Sums up the series of the sine of a whole number. -/
def sineFrom (x : Nat) : Nat → Nat → Int → Int → Int
  | 0, _, _, sum => sum
  | fuel + 1, n, term, sum =>
    sineFrom x fuel (n + 2) (-(term * (x * x) / ((n + 1) * (n + 2) : Nat))) (sum + term)

/-- The first 32 binary digits of the size of the sine of a whole number. -/
def sineDigits (x : Nat) : Nat :=
  (sineFrom x 300 1 (x * Int.pow 2 250) 0).natAbs / Nat.pow 2 218 % Nat.pow 2 32

/-! ### Digests -/

/-- How a digest goes from block to block. -/
structure Method (σ : Type) where
  /-- How many bytes a block has. -/
  block : Nat
  first : σ
  step : σ → List Nat → σ

/-- Goes through all blocks of a text that has been made to fill them. -/
def Method.run {σ : Type} (m : Method σ) (text : List Nat) : σ :=
  (pieces m.block (text.length + 1) text).foldl m.step m.first

/-! #### MD5 -/

structure Four where
  a : BitVec 32
  b : BitVec 32
  c : BitVec 32
  d : BitVec 32

def md5Constants : Array (BitVec 32) := ((List.range 64).map fun i => .ofNat 32 (sineDigits (i + 1))).toArray

def md5Turns : Array Nat := #[7, 12, 17, 22, 5, 9, 14, 20, 4, 11, 16, 23, 6, 10, 15, 21]

def md5Step (words : Array (BitVec 32)) (s : Four) (i : Nat) : Four :=
  let (f, g) := match i / 16 with
    | 0 => ((s.b &&& s.c) ||| (~~~s.b &&& s.d), i)
    | 1 => ((s.d &&& s.b) ||| (~~~s.d &&& s.c), (5 * i + 1) % 16)
    | 2 => (s.b ^^^ s.c ^^^ s.d, (3 * i + 5) % 16)
    | _ => (s.c ^^^ (s.b ||| ~~~s.d), 7 * i % 16)
  let sum := s.a + f + md5Constants.getD i 0 + words.getD g 0
  let turn := md5Turns.getD (i / 16 * 4 + i % 4) 0
  { a := s.d, b := s.b + sum.rotateLeft turn, c := s.b, d := s.c }

def md5 (text : List Nat) : List Nat :=
  let step (s : Four) (block : List Nat) : Four :=
    let words := ((pieces 4 16 block).map fun w => BitVec.ofNat 32 (numberReversed w)).toArray
    let t := (List.range 64).foldl (md5Step words) s
    { a := s.a + t.a, b := s.b + t.b, c := s.c + t.c, d := s.d + t.d }
  let m : Method Four :=
    { block := 64, first := ⟨0x67452301, 0xefcdab89, 0x98badcfe, 0x10325476⟩, step }
  let s := m.run (padded 64 8 (bytesReversed 8) text)
  [s.a, s.b, s.c, s.d].flatMap fun w => bytesReversed 4 w.toNat

/-! #### SHA -/

def addWords {w : Nat} (xs ys : List (BitVec w)) : List (BitVec w) := xs.zipWith (· + ·) ys

/-- Makes more words out of a block: each of the words before it, and so on. -/
def extend {w : Nat} (next : Array (BitVec w) → Nat → BitVec w) (count : Nat) (block : List Nat) :
    Array (BitVec w) :=
  let first := ((pieces (w / 8) 16 block).map fun word => BitVec.ofNat w (number word)).toArray
  (List.range count).foldl (fun words i => if i < 16 then words else words.push (next words i)) first

def sha1 (text : List Nat) : List Nat :=
  let next (words : Array (BitVec 32)) (i : Nat) : BitVec 32 :=
    let word (back : Nat) := words.getD (i - back) 0
    (word 3 ^^^ word 8 ^^^ word 14 ^^^ word 16).rotateLeft 1
  let turn (words : Array (BitVec 32)) (s : List (BitVec 32)) (i : Nat) : List (BitVec 32) :=
    match s with
    | [a, b, c, d, e] =>
      let (f, k) : BitVec 32 × BitVec 32 := match i / 20 with
        | 0 => ((b &&& c) ||| (~~~b &&& d), 0x5a827999)
        | 1 => (b ^^^ c ^^^ d, 0x6ed9eba1)
        | 2 => ((b &&& c) ||| (b &&& d) ||| (c &&& d), 0x8f1bbcdc)
        | _ => (b ^^^ c ^^^ d, 0xca62c1d6)
      [a.rotateLeft 5 + f + e + k + words.getD i 0, a, b.rotateLeft 30, c, d]
    | s => s
  let step (s : List (BitVec 32)) (block : List Nat) : List (BitVec 32) :=
    addWords s ((List.range 80).foldl (turn (extend next 80 block)) s)
  let m : Method (List (BitVec 32)) :=
    { block := 64, first := [0x67452301, 0xefcdab89, 0x98badcfe, 0x10325476, 0xc3d2e1f0], step }
  (m.run (padded 64 8 (bytes 8) text)).flatMap fun word => bytes 4 word.toNat

/-- What tells the digests of the second family from each other. -/
structure Family (w : Nat) where
  /-- What the steps add. -/
  constants : Array (BitVec w)
  first : List (BitVec w)
  /-- How far words are turned: those of the state, twice three numbers, and those of the block,
  where the third is moved and not turned. -/
  large : (Nat × Nat × Nat) × (Nat × Nat × Nat)
  small : (Nat × Nat × Nat) × (Nat × Nat × Nat)

namespace Family

variable {w : Nat}

def large' (t : Nat × Nat × Nat) (x : BitVec w) : BitVec w :=
  x.rotateRight t.1 ^^^ x.rotateRight t.2.1 ^^^ x.rotateRight t.2.2

def small' (t : Nat × Nat × Nat) (x : BitVec w) : BitVec w :=
  x.rotateRight t.1 ^^^ x.rotateRight t.2.1 ^^^ (x >>> t.2.2)

def turn (f : Family w) (words : Array (BitVec w)) (s : List (BitVec w)) (i : Nat) :
    List (BitVec w) :=
  match s with
  | [a, b, c, d, e, f', g, h] =>
    let one := h + large' f.large.2 e + ((e &&& f') ^^^ (~~~e &&& g)) + f.constants.getD i 0 + words.getD i 0
    let two := large' f.large.1 a + ((a &&& b) ^^^ (a &&& c) ^^^ (b &&& c))
    [one + two, a, b, c, d + one, e, f', g]
  | s => s

/-- The digest, of which only so many bytes are used. -/
def digest (f : Family w) (size : Nat) (text : List Nat) : List Nat :=
  let rounds := f.constants.size
  let next (words : Array (BitVec w)) (i : Nat) : BitVec w :=
    let word (back : Nat) := words.getD (i - back) 0
    small' f.small.2 (word 2) + word 7 + small' f.small.1 (word 15) + word 16
  let step (s : List (BitVec w)) (block : List Nat) : List (BitVec w) :=
    addWords s ((List.range rounds).foldl (f.turn (extend next rounds block)) s)
  let m : Method (List (BitVec w)) := { block := 2 * w, first := f.first, step }
  let s := m.run (padded (2 * w) (w / 4) (bytes (w / 4)) text)
  (s.flatMap fun word => bytes (w / 8) word.toNat).take size

end Family

/-- The first binary digits of the cube roots of prime numbers. -/
def cubeRoots : List Nat := primes.map (rootDigits 3 64)

/-- The first binary digits of the square roots of eight prime numbers. -/
def squareRoots (skip : Nat) : List Nat := ((primes.drop skip).take 8).map (rootDigits 2 64)

def shortFamily (first : List Nat) : Family 32 :=
  { constants := ((cubeRoots.take 64).map fun n => .ofNat 32 (n / Nat.pow 2 32)).toArray
    first := first.map (.ofNat 32)
    large := ((2, 13, 22), (6, 11, 25))
    small := ((7, 18, 3), (17, 19, 10)) }

def longFamily (first : List Nat) : Family 64 :=
  { constants := (cubeRoots.map (.ofNat 64)).toArray
    first := first.map (.ofNat 64)
    large := ((28, 34, 39), (14, 18, 41))
    small := ((1, 8, 7), (19, 61, 6)) }

/-- SHA-224, SHA-256, SHA-384 and SHA-512, by their bits. -/
def sha2 (bits : Nat) (text : List Nat) : List Nat :=
  match bits with
  | 224 => (shortFamily ((squareRoots 8).map (· % Nat.pow 2 32))).digest 28 text
  | 256 => (shortFamily ((squareRoots 0).map (· / Nat.pow 2 32))).digest 32 text
  | 384 => (longFamily (squareRoots 8)).digest 48 text
  | _ => (longFamily (squareRoots 0)).digest 64 text

/-! #### BLAKE2 -/

/-- The orders in which the words of a block are used. -/
def blakeOrders : Array (Array Nat) :=
  #[#[0, 1, 2, 3, 4, 5, 6, 7, 8, 9, 10, 11, 12, 13, 14, 15],
    #[14, 10, 4, 8, 9, 15, 13, 6, 1, 12, 0, 2, 11, 7, 5, 3],
    #[11, 8, 12, 0, 5, 2, 15, 13, 10, 14, 3, 6, 7, 1, 9, 4],
    #[7, 9, 3, 1, 13, 12, 11, 14, 2, 6, 5, 10, 4, 0, 15, 8],
    #[9, 0, 5, 7, 2, 4, 10, 15, 14, 1, 11, 12, 6, 8, 3, 13],
    #[2, 12, 6, 10, 0, 11, 8, 3, 4, 13, 7, 5, 15, 14, 1, 9],
    #[12, 5, 1, 15, 14, 13, 4, 10, 0, 7, 6, 3, 9, 2, 8, 11],
    #[13, 11, 7, 14, 12, 1, 3, 9, 5, 0, 15, 4, 8, 6, 2, 10],
    #[6, 15, 14, 9, 11, 3, 0, 8, 12, 2, 13, 7, 1, 4, 10, 5],
    #[10, 2, 8, 4, 7, 6, 1, 5, 15, 11, 9, 14, 3, 12, 13, 0]]

/-- The places of the state that are mixed: four columns and four diagonals. -/
def blakePlaces : List (Nat × Nat × Nat × Nat) :=
  [(0, 4, 8, 12), (1, 5, 9, 13), (2, 6, 10, 14), (3, 7, 11, 15),
    (0, 5, 10, 15), (1, 6, 11, 12), (2, 7, 8, 13), (3, 4, 9, 14)]

/-- Mixes four words of the state with two of the block. -/
def blakeMix (v : Array (BitVec 64)) (p : Nat × Nat × Nat × Nat) (x y : BitVec 64) :
    Array (BitVec 64) :=
  let (i, j, k, l) := p
  let (a, b, c, d) := (v.getD i 0, v.getD j 0, v.getD k 0, v.getD l 0)
  let a := a + b + x
  let d := (d ^^^ a).rotateRight 32
  let c := c + d
  let b := (b ^^^ c).rotateRight 24
  let a := a + b + y
  let d := (d ^^^ a).rotateRight 16
  let c := c + d
  let b := (b ^^^ c).rotateRight 63
  (((v.setIfInBounds i a).setIfInBounds j b).setIfInBounds k c).setIfInBounds l d

/-- Takes a block into the state; `count` bytes have been taken with it. -/
def blakeStep (h : List (BitVec 64)) (block : List Nat) (count : Nat) (isLast : Bool) :
    List (BitVec 64) :=
  let filled := block ++ List.replicate (128 - block.length) 0
  let words := ((pieces 8 16 filled).map fun w => BitVec.ofNat 64 (numberReversed w)).toArray
  let start := (squareRoots 0).map (BitVec.ofNat 64)
  let v := (h ++ start).toArray
  let v := v.modify 12 (· ^^^ .ofNat 64 count)
  let v := if isLast then v.modify 14 (~~~·) else v
  let round (v : Array (BitVec 64)) (r : Nat) : Array (BitVec 64) :=
    let order := blakeOrders.getD (r % 10) #[]
    let word (i : Nat) := words.getD (order.getD i 0) 0
    (blakePlaces.zipIdx).foldl (fun v (p, i) => blakeMix v p (word (2 * i)) (word (2 * i + 1))) v
  let v := (List.range 12).foldl round v
  h.mapIdx fun i x => x ^^^ v.getD i 0 ^^^ v.getD (i + 8) 0

def blake (size : Nat) (text : List Nat) : List Nat :=
  let start := (squareRoots 0).map (BitVec.ofNat 64)
  let start := match start with
    | x :: rest => (x ^^^ 0x01010000 ^^^ .ofNat 64 size) :: rest
    | [] => []
  let blocks := if text = [] then [[]] else pieces 128 (text.length + 1) text
  let (h, _) := blocks.dropLast.foldl
    (fun (h, count) block => (blakeStep h block (count + 128) false, count + 128)) (start, 0)
  let h := blakeStep h (blocks.getLast?.getD []) text.length true
  (h.flatMap fun word => bytesReversed 8 word.toNat).take size

/-! ### Check sums -/

/-- A byte taken into the remainder of a division by a polynomial of degree 32. -/
def remainderStep (r : BitVec 32) (b : Nat) : BitVec 32 :=
  (List.range 8).foldl (fun r _ => if r.msb then (r <<< 1) ^^^ 0x04c11db7 else r <<< 1)
    (r ^^^ (BitVec.ofNat 32 b <<< 24))

/-- The remainder of a text with its length behind it. -/
def cyclic (text : List Nat) : Nat :=
  let length := text.length
  let count := if length = 0 then 0 else Nat.log2 length / 8 + 1
  (~~~ ((text ++ bytesReversed count length).foldl remainderStep 0)).toNat

/-- A sum of 16 bits that is turned before every byte. -/
def turnedSum (text : List Nat) : Nat :=
  text.foldl (fun s b => (s / 2 + s % 2 * Nat.pow 2 15 + b) % Nat.pow 2 16) 0

def plainSum (text : List Nat) : Nat :=
  let s := sumOf text % Nat.pow 2 32
  let r := s % Nat.pow 2 16 + s / Nat.pow 2 16
  r % Nat.pow 2 16 + r / Nat.pow 2 16

end LineShell.Digest
