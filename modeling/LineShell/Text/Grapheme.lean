import LineShell.Text.Basic
import LineShell.Text.Grapheme.Ranges

/-! Grapheme clusters: what a reader takes for one character. -/
namespace LineShell.Text.Grapheme

/-- How a character behaves at the bounds of clusters. -/
inductive Kind
  | control
  | carriageReturn
  | newline
  | extend
  /-- Extends, but does not stand between a consonant and its mark. -/
  | nonJoiner
  | joiner
  | spacing
  | prepend
  | consonant
  | linker
  | pictograph
  /-- Half of a flag. -/
  | regional
  | leading
  | vowel
  | trailing
  /-- A syllable that a vowel and what comes behind one can follow. -/
  | openSyllable
  | closedSyllable
  | other
  deriving DecidableEq, Repr

def isIn (ranges : List (Nat × Nat)) (n : Nat) : Bool :=
  ranges.any fun (first, last) => first ≤ n && n ≤ last

def hangul? (n : Nat) : Option Kind :=
  if isIn [(0x1100, 0x115F), (0xA960, 0xA97C)] n then some .leading
  else if isIn [(0x1160, 0x11A7), (0xD7B0, 0xD7C6), (0x16D63, 0x16D63), (0x16D67, 0x16D6A)] n then some .vowel
  else if isIn [(0x11A8, 0x11FF), (0xD7CB, 0xD7FB)] n then some .trailing
  else if isIn [(0xAC00, 0xD7A3)] n then
    some (if (n - 0xAC00) % 28 = 0 then .openSyllable else .closedSyllable)
  else none

def kindOf (c : Char) : Kind :=
  let n := c.toNat
  if c = '\r' then .carriageReturn
  else if c = '\n' then .newline
  else if isIn controlRanges n then .control
  else if n < 0xA9 then .other
  else if n = 0x200C then .nonJoiner
  else if n = 0x200D then .joiner
  else if isIn linkerRanges n then .linker
  else if isIn extendRanges n then .extend
  else if isIn spacingRanges n then .spacing
  else if isIn prependRanges n then .prepend
  else if isIn consonantRanges n then .consonant
  else if isIn pictographRanges n then .pictograph
  else if isIn [(0x1F1E6, 0x1F1FF)] n then .regional
  else (hangul? n).getD .other

/-- What the end of a cluster waits for. -/
inductive Pending
  | nothing
  /-- A pictograph with marks behind it; a joiner that has just come lets another one follow. -/
  | picture (joined : Bool)
  /-- A consonant with marks behind it; a linker, if it has come, lets another one follow. -/
  | consonant (linked : Bool)
  /-- Half of a flag. -/
  | flag
  deriving DecidableEq, Repr

/-- What is waited for behind another character. -/
def Pending.next (p : Pending) (k : Kind) (joins : Bool) : Pending :=
  match k, p with
  | .pictograph, _ => .picture false
  | .consonant, _ => .consonant false
  | .regional, .flag => if joins then .nothing else .flag
  | .regional, _ => .flag
  | .extend, .picture false | .nonJoiner, .picture false | .linker, .picture false => .picture false
  | .joiner, .picture false => .picture true
  | .extend, .consonant linked => .consonant linked
  | .joiner, .consonant linked => .consonant linked
  | .linker, .consonant _ => .consonant true
  | _, _ => .nothing

/-- Whether a character goes on with the cluster in front of it. -/
def joins (before : Kind) (p : Pending) (k : Kind) : Bool :=
  match before, k with
  | .carriageReturn, .newline => true
  | .carriageReturn, _ | .newline, _ | .control, _ => false
  | _, .carriageReturn | _, .newline | _, .control => false
  | .leading, .leading | .leading, .vowel | .leading, .openSyllable => true
  | .leading, .closedSyllable => true
  | .openSyllable, .vowel | .openSyllable, .trailing | .vowel, .vowel | .vowel, .trailing => true
  | .closedSyllable, .trailing | .trailing, .trailing => true
  | _, .extend | _, .nonJoiner | _, .joiner | _, .linker | _, .spacing => true
  | .prepend, _ => true
  | _, .pictograph => p == .picture true
  | _, .consonant => p == .consonant true
  | _, .regional => p == .flag
  | _, _ => false

/-- The clusters of a text behind a character of this kind. The first of them goes on with its
cluster. -/
def clustersFrom (before : Kind) (p : Pending) : Text → Text × List Text
  | [] => ([], [])
  | c :: rest =>
    let k := kindOf c
    let joined := joins before p k
    let (first, others) := clustersFrom k (p.next k joined) rest
    if joined then (c :: first, others) else ([], (c :: first) :: others)

def clusters (t : Text) : List Text := (clustersFrom .newline .nothing t).2

end Grapheme

/-- Drops characters from the front that take up so many bytes. -/
def dropBytes : Nat → Text → Text
  | _, [] => []
  | n, c :: rest => if c.utf8Size ≤ n then dropBytes (n - c.utf8Size) rest else c :: rest

/-- A text as it is typed: the text so far, last character first, and the sizes of its clusters. -/
structure Draft where
  reversed : Text := []
  sizes : List Nat := []

/-- Adds a cluster. A backspace erases the last one instead, as far as its size is known: no more
than the last eight bits of it are kept. -/
def Draft.add (d : Draft) (cluster : Text) : Draft :=
  if cluster = ['\x08'] then
    match d.sizes with
    | [] => d
    | size :: sizes => ⟨dropBytes (size % 256) d.reversed, sizes⟩
  else ⟨cluster.reverse ++ d.reversed, sumOf (cluster.map Char.utf8Size) :: d.sizes⟩

/-- Takes every backspace out, together with the cluster that is left in front of it. -/
def withoutErased (t : Text) : Text :=
  ((Grapheme.clusters t).foldl Draft.add {}).reversed.reverse

end LineShell.Text
