import LineShell.Text.Basic

/-!
Which lines of two texts belong together. Lines are numbers here, the same number for lines that
count as the same; what is found are marks on the lines that have no partner, as few as can be had,
and from these the changes that lead from one text to the other.
-/
namespace LineShell.Alignment

abbrev Marks := Array Bool

namespace Marks

/-- Whether a line is marked; there are no marks outside the text. -/
def has (m : Marks) (i : Int) : Bool := if i < 0 then false else m.getD i.toNat false

/-- The first line from here on that is not marked. -/
def past (m : Marks) (i : Int) : Int := search (m.size + 1) i
where
  /-- Looks at so many lines. -/
  search : Nat → Int → Int
    | 0, i => i
    | fuel + 1, i => if m.has i then search fuel (i + 1) else i

/-- The last line in front of this one that is not marked. -/
def back (m : Marks) (i : Int) : Int := search (m.size + 1) (i - 1)
where
  /-- Looks at so many lines. -/
  search : Nat → Int → Int
    | 0, i => i
    | fuel + 1, i => if m.has i then search fuel (i - 1) else i

def put (m : Marks) (i : Int) (marked : Bool) : Marks := m.setIfInBounds i.toNat marked

end Marks

/-! ### Lines that need no search -/

/-- What is known about a line from the number of its partners. -/
inductive Standing
  | kept
  /-- No other line is like it. -/
  | alone
  /-- So many other lines are like it that it tells little. -/
  | common
  deriving DecidableEq

namespace Standing

def quarters (n : Nat) : Nat := if n / 4 = 0 then 0 else quarters (n / 4) + 1
termination_by n
decreasing_by omega

/-- More partners than this make a line common, in a text of so many lines. -/
def many (lines : Nat) : Nat := 5 * Nat.pow 2 (quarters (lines / 64))

/-- Keeps common lines until a few lines without partner have been seen in a row, or one at some
distance. -/
def soften : Nat → Nat → List Standing → List Standing
  | _, _, [] => []
  | position, inRow, s :: rest =>
    if s = alone ∧ (8 ≤ position ∨ inRow = 2) then s :: rest
    else if s = alone then s :: soften (position + 1) (inRow + 1) rest
    else kept :: soften (position + 1) 0 rest

/-- Keeps the common lines that stand in rows of at least so many. -/
def breakRows (least : Nat) : Nat → List Standing → List Standing
  | 0, run => run
  | _, [] => []
  | fuel + 1, s :: rest =>
    if s ≠ common then s :: breakRows least fuel rest
    else
      let row := (s :: rest).takeWhile (· == common)
      let shown := if least ≤ row.length then row.map fun _ => kept else row
      shown ++ breakRows least fuel ((s :: rest).drop row.length)

/-- Decides about the common lines in a run that begins and ends with lines without partner. -/
def settleRun (run : List Standing) : List Standing :=
  if run.length < 4 * run.count common then run.map fun s => if s = common then kept else s
  else
    let least := Nat.pow 2 (quarters (run.length / 4)) + 1
    let run := soften 0 0 (breakRows least run.length run)
    (soften 0 0 run.reverse).reverse

/-- Decides about all common lines: they are left out only among lines without partner. -/
def settle : Nat → List Standing → List Standing
  | 0, standings => standings
  | _, [] => []
  | fuel + 1, s :: rest =>
    if s ≠ alone then kept :: settle fuel rest
    else
      let run := (s :: rest).takeWhile (· != kept)
      let core := (run.reverse.dropWhile (· == common)).reverse
      settleRun core ++ List.replicate (run.length - core.length) kept ++
        settle fuel ((s :: rest).drop run.length)

/-- What is known about the lines of a text, where `partners` counts lines of the other one. -/
def ofLines (classes : Array Nat) (partners : Nat → Nat) : List Standing :=
  let limit := many classes.size
  let first := classes.toList.map fun c =>
    if partners c = 0 then alone else if limit < partners c then common else kept
  settle (first.length + 1) first

end Standing

/-- How often each number is in a list of numbers below a limit. -/
def counts (limit : Nat) (classes : Array Nat) : Array Nat :=
  classes.foldl (fun n c => n.modify c (· + 1)) (Array.replicate limit 0)

/-! ### The shortest way -/

structure Box where
  left : Nat
  right : Nat
  top : Nat
  bottom : Nat

namespace Box

variable (xs ys : Array Nat)

def forward (b : Box) : Nat → Nat → Nat → Nat
  | 0, x, _ => x
  | fuel + 1, x, y =>
    if x < b.right ∧ y < b.bottom ∧ xs.getD x 0 = ys.getD y 0 then forward b fuel (x + 1) (y + 1) else x

def backward (b : Box) : Nat → Nat → Nat → Nat
  | 0, x, _ => x
  | fuel + 1, x, y =>
    if b.left < x ∧ b.top < y ∧ xs.getD (x - 1) 0 = ys.getD (y - 1) 0 then
      backward b fuel (x - 1) (y - 1)
    else x

/-- A point on a shortest way through a part whose first and last lines differ. It is found where
a search from the front and one from the end meet; both know for each diagonal how far they have
come. -/
def middle (b : Box) : Nat × Nat := Id.run do
  let length := b.right - b.left + (b.bottom - b.top)
  let least : Int := (b.left : Int) - b.bottom
  let greatest : Int := (b.right : Int) - b.top
  let first : Int := (b.left : Int) - b.top
  let last : Int := (b.right : Int) - b.bottom
  let place (d : Int) : Nat := (d - least + 1).toNat
  let infinity : Int := b.right + b.bottom + 10
  let isOdd := (first - last) % 2 ≠ 0
  let mut front : Array Int := (Array.replicate (length + 3) (-1)).setIfInBounds (place first) b.left
  let mut rear : Array Int := (Array.replicate (length + 3) infinity).setIfInBounds (place last) b.right
  let mut low := first
  let mut high := first
  let mut low' := last
  let mut high' := last
  for _ in [0:length + 1] do
    if least < low then
      low := low - 1
      front := front.setIfInBounds (place (low - 1)) (-1)
    else low := low + 1
    if high < greatest then
      high := high + 1
      front := front.setIfInBounds (place (high + 1)) (-1)
    else high := high - 1
    for step in [0:((high - low) / 2 + 1).toNat] do
      let d := high - 2 * step
      let below := front.getD (place (d - 1)) (-1)
      let above := front.getD (place (d + 1)) (-1)
      let x := if below < above then above else below + 1
      let x := b.forward xs ys (length + 1) x.toNat (x - d).toNat
      front := front.setIfInBounds (place d) x
      if isOdd ∧ low' ≤ d ∧ d ≤ high' ∧ rear.getD (place d) infinity ≤ x then
        return (x, (x - d).toNat)
    if least < low' then
      low' := low' - 1
      rear := rear.setIfInBounds (place (low' - 1)) infinity
    else low' := low' + 1
    if high' < greatest then
      high' := high' + 1
      rear := rear.setIfInBounds (place (high' + 1)) infinity
    else high' := high' - 1
    for step in [0:((high' - low') / 2 + 1).toNat] do
      let d := high' - 2 * step
      let below := rear.getD (place (d - 1)) infinity
      let above := rear.getD (place (d + 1)) infinity
      let x := if below < above then below else above - 1
      let x := b.backward xs ys (length + 1) x.toNat (x - d).toNat
      rear := rear.setIfInBounds (place d) x
      if !isOdd ∧ low ≤ d ∧ d ≤ high ∧ x ≤ front.getD (place d) (-1) then
        return (x, (x - d).toNat)
  return (b.right, b.top)

/-- Marks the lines of a part that a shortest way leaves out or adds. -/
def mark : Nat → Box → Marks × Marks → Marks × Marks
  | 0, _, marks => marks
  | fuel + 1, b, (own, other) =>
    let skip := b.forward xs ys (b.right + 1) b.left b.top - b.left
    let b := { b with left := b.left + skip, top := b.top + skip }
    let skip := b.right - b.backward xs ys (b.right + 1) b.right b.bottom
    let b := { b with right := b.right - skip, bottom := b.bottom - skip }
    if b.left = b.right then
      (own, (List.range (b.bottom - b.top)).foldl (fun m i => m.setIfInBounds (b.top + i) true) other)
    else if b.top = b.bottom then
      ((List.range (b.right - b.left)).foldl (fun m i => m.setIfInBounds (b.left + i) true) own, other)
    else
      let (x, y) := b.middle xs ys
      mark fuel { b with left := x, top := y }
        (mark fuel { b with right := x, bottom := y } (own, other))

end Box

/-! ### Moving marks -/

/-- Moves each run of marked lines as far down as it goes, unless it can be put next to marked lines
of the other text. Runs that meet become one. -/
def shift (classes : Array Nat) (own other : Marks) : Marks := Id.run do
  let size : Int := classes.size
  let kind (i : Int) : Nat := classes.getD i.toNat 0
  let fuel := classes.size + 1
  let mut own := own
  let mut i : Int := 0
  let mut j : Int := 0
  for _ in [0:fuel] do
    for _ in [0:fuel] do
      if size ≤ i ∨ own.has i then break
      j := other.past j + 1
      i := i + 1
    if size ≤ i then break
    let mut start := i
    i := own.past i
    j := other.past j
    let mut matched := size
    for _ in [0:fuel] do
      let length := i - start
      for _ in [0:fuel] do
        if start ≤ 0 ∨ kind (start - 1) ≠ kind (i - 1) then break
        start := start - 1
        own := own.put start true
        i := i - 1
        own := own.put i false
        start := own.back start + 1
        j := other.back j
      matched := if other.has (j - 1) then i else size
      for _ in [0:fuel] do
        if size ≤ i ∨ kind start ≠ kind i then break
        own := own.put start false
        start := start + 1
        own := own.put i true
        i := own.past (i + 1)
        j := j + 1
        if other.has j then
          j := other.past j
          matched := i
      if length = i - start then break
    for _ in [0:fuel] do
      if i ≤ matched then break
      start := start - 1
      own := own.put start true
      i := i - 1
      own := own.put i false
      j := other.back j
  return own

/-! ### Changes -/

/-- Lines that are in one text only, at the same place. -/
structure Change where
  /-- How many lines stand in front of the change in both texts. -/
  first : Nat
  second : Nat
  deleted : Nat
  inserted : Nat

def changes (own other : Marks) : Nat → Nat → Nat → List Change
  | 0, _, _ => []
  | fuel + 1, i, j =>
    let deleted := (own.past i).toNat - i
    let inserted := (other.past j).toNat - j
    if 0 < deleted ∨ 0 < inserted then
      { first := i, second := j, deleted, inserted } ::
        changes own other fuel (i + deleted) (j + inserted)
    else if own.size ≤ i ∧ other.size ≤ j then []
    else changes own other fuel (i + 1) (j + 1)

/-- The changes that lead from one text to the other, with lines as numbers below a limit. With
`minimal` no line is left out of the search. -/
def align (limit : Nat) (xs ys : Array Nat) (minimal : Bool) : List Change :=
  let countsOfFirst := counts limit xs
  let countsOfSecond := counts limit ys
  let standing (classes counted : Array Nat) : List Standing :=
    if minimal then classes.toList.map fun _ => .kept
    else Standing.ofLines classes fun c => counted.getD c 0
  let own := standing xs countsOfSecond
  let other := standing ys countsOfFirst
  let places (standings : List Standing) : Array Nat :=
    ((standings.zipIdx.filter fun (s, _) => s == .kept).map (·.2)).toArray
  let here := places own
  let there := places other
  let kept (classes : Array Nat) (places : Array Nat) : Array Nat := places.map fun i => classes.getD i 0
  let whole : Box := { left := 0, right := here.size, top := 0, bottom := there.size }
  let (found, found') := whole.mark (kept xs here) (kept ys there) (here.size + there.size + 1)
    (Array.replicate here.size false, Array.replicate there.size false)
  let spread (standings : List Standing) (places : Array Nat) (marks : Marks) : Marks :=
    places.toList.zipIdx.foldl (fun m (place, i) => m.setIfInBounds place (marks.has i))
      ((standings.map (· != .kept)).toArray)
  let first := spread own here found
  let second := spread other there found'
  let first := shift xs first second
  let second := shift ys second first
  changes first second (xs.size + ys.size + 1) 0 0

end LineShell.Alignment
