import LineShell.Text.Basic

/-!
The order of names in which numbers count as numbers: `v9` comes before `v10`. A tilde comes before
everything, even before the end, letters come before other signs, and endings such as `.tar.gz`
count only where all else is equal.
-/
namespace LineShell.Utility.Version

/-- Where a character that is no digit stands in the order; the end of a name comes first but for
a tilde. -/
def rank : Option Char → Int
  | none => -1
  | some c =>
    if c.isDigit then 0
    else if c.isAlpha then c.toNat
    else if c = '~' then -2
    else c.toNat + 256

/-- Compares runs of signs that are no digits, and gives what follows them if they are equal. -/
def compareSigns : Nat → Text → Text → Ordering × Text × Text
  | 0, a, b => (.eq, a, b)
  | fuel + 1, a, b =>
    let isSign (t : Text) : Bool := t.head?.any fun c => !c.isDigit
    if isSign a || isSign b then
      match compare (rank a.head?) (rank b.head?) with
      | .eq => compareSigns fuel a.tail b.tail
      | order => (order, a, b)
    else (.eq, a, b)

/-- Compares names piece by piece: signs, then digits as a number, and so on. -/
def comparePieces : Nat → Text → Text → Ordering
  | 0, _, _ => .eq
  | fuel + 1, a, b =>
    if a = [] ∧ b = [] then .eq
    else
      match compareSigns (a.length + b.length + 1) a b with
      | (.eq, a, b) =>
        let number (t : Text) : Nat := (Text.natural? (t.takeWhile Char.isDigit)).getD 0
        match compare (number a) (number b) with
        | .eq => comparePieces fuel (a.dropWhile Char.isDigit) (b.dropWhile Char.isDigit)
        | order => order
      | (order, _, _) => order

/-- The endings at the front of a text, each a dot and a word that begins with a letter. -/
def dropEndings : Nat → Text → Text
  | 0, t => t
  | fuel + 1, t =>
    match t with
    | '.' :: c :: rest =>
      if c.isAlpha ∨ c = '~' then
        dropEndings fuel (rest.dropWhile fun c => c.isAlphanum || c == '~')
      else t
    | _ => t

/-- How long a name is without its endings. At least one character is left. -/
def stemLength : Nat → Nat → Text → Nat
  | 0, _, _ => 0
  | _ + 1, _, [] => 0
  | fuel + 1, position, _ :: rest =>
    match dropEndings rest.length rest with
    | [] => position + 1
    | behind => stemLength fuel (position + 1 + (rest.length - behind.length)) behind

def compare (a b : Text) : Ordering :=
  let whole (a b : Text) : Ordering := comparePieces (a.length + b.length + 1) a b
  let group (t : Text) : Nat :=
    match t with
    | [] => 0
    | ['.'] => 1
    | ['.', '.'] => 2
    | '.' :: _ => 3
    | _ => 4
  if group a ≠ group b ∨ group a < 3 then Ord.compare (group a) (group b)
  else
    let stem (t : Text) : Text := t.take (stemLength t.length 0 t)
    match whole (stem a) (stem b) with
    | .eq => whole a b
    | order => order

end LineShell.Utility.Version
