import LineShell.Text.Basic

/-!
Regular expressions over bytes. Of all matches that begin first the longest counts. Of several ways
to it the one is taken that repeats more often and chooses earlier alternatives, from the first part
of the expression to the last.
-/
namespace LineShell

/-- A condition on where in a text something stands. -/
inductive Anchor
  | textStart
  | textEnd
  | lineStart
  | lineEnd
  | wordStart
  | wordEnd
  | wordEdge
  | noWordEdge
  deriving DecidableEq, Repr

inductive Regex
  | one (accepts : Char → Bool)
  | anchor (a : Anchor)
  | group (number : Nat) (inner : Regex)
  | sequence (parts : List Regex)
  | choice (parts : List Regex)
  /-- At least so often, and no more often than that. -/
  | repeated (inner : Regex) (least : Nat) (most : Option Nat)
  /-- What a group has matched, once more. -/
  | copy (number : Nat) (anyCase : Bool)

namespace Regex

instance : Inhabited Regex := ⟨.sequence []⟩

/-- A place in a text: how many characters are in front of it, which one the last of them is, and
what is behind it. -/
structure Place where
  index : Nat := 0
  before : Option Char := none
  rest : Text

abbrev Groups := List (Nat × Text)

abbrev Way := Place × Groups

def isWordChar (c : Char) : Bool := c.isAlphanum || c == '_'

namespace Place

def upTo (p q : Place) : Text := p.rest.take (q.index - p.index)

def skip (p : Place) (n : Nat) : Place :=
  match n with
  | 0 => p
  | n + 1 => { index := p.index + n + 1, before := p.rest[n]?, rest := p.rest.drop (n + 1) }

def holds (p : Place) (a : Anchor) : Bool :=
  let before := p.before.any isWordChar
  let behind := p.rest.head?.any isWordChar
  match a with
  | .textStart => p.before.isNone
  | .textEnd => p.rest.isEmpty
  | .lineStart => p.before.all (· == '\n')
  | .lineEnd => p.rest.head?.all (· == '\n')
  | .wordStart => !before && behind
  | .wordEnd => before && !behind
  | .wordEdge => before != behind
  | .noWordEdge => before == behind

end Place

/-- Whether what groups have matched matters for the rest of a match. -/
def copies : Regex → Bool
  | .copy .. => true
  | .group _ inner => inner.copies
  | .repeated inner _ _ => inner.copies
  | .sequence parts => anyCopies parts
  | .choice parts => anyCopies parts
  | _ => false
where
  /-- Whether one of some parts does. -/
  anyCopies : List Regex → Bool
    | [] => false
    | part :: parts => part.copies || anyCopies parts

/-- Leaves out ways that lead where an earlier one does. -/
def distinct (ways : List Way) : List Way :=
  match ways with
  | [] => []
  | [way] => [way]
  | ways =>
    let limit := ways.foldl (fun n (p, _) => max n p.index) 0
    let step (state : List Way × Array Bool) (way : Way) : List Way × Array Bool :=
      let (kept, seen) := state
      if (seen[way.1.index]?).getD true then state
      else (way :: kept, seen.set! way.1.index true)
    (ways.foldl step ([], Array.replicate (limit + 1) false)).1.reverse

/-- What has been found by repeating a step: the ways, the last one first, and where a search has
begun with how many steps left; the number does not count where there is no limit. -/
structure Search where
  found : List Way := []
  begun : List (Nat × Nat) := []

/-- Repeats a step at most `n` times; to go on comes before to stop. Steps that lead nowhere do not
count. -/
def Search.go (step : Way → List Way) (limited : Bool) : Nat → Way → Search → Search
  | 0, way, s => { s with found := way :: s.found }
  | n + 1, way, s =>
    let key := (way.1.index, if limited then n else 0)
    if s.begun.contains key then s
    else
      let s := (step way).foldl
        (fun s next => if next.1.index ≤ way.1.index then s else go step limited n next s)
        { s with begun := key :: s.begun }
      { s with found := way :: s.found }

def runLength (accepts : Char → Bool) (most : Option Nat) (t : Text) : Nat :=
  match most with
  | some n => ((t.take n).takeWhile accepts).length
  | none => (t.takeWhile accepts).length

mutual

/-- All ways in which an expression matches at a place, the best first. With `exact` ways are told
apart by what groups have matched as well. -/
def ways (exact : Bool) : Regex → Way → List Way
  | .one accepts, (p, g) =>
    match p.rest with
    | c :: rest => if accepts c then [({ index := p.index + 1, before := c, rest }, g)] else []
    | [] => []
  | .anchor a, (p, g) => if p.holds a then [(p, g)] else []
  | .group n inner, (p, g) =>
    (inner.ways exact (p, g)).map fun (q, g) => (q, (n, p.upTo q) :: g.filter (·.1 != n))
  | .sequence parts, way => sequenceWays exact parts [way]
  | .choice parts, way =>
    let all := choiceWays exact parts way
    if exact then all else distinct all
  | .repeated (.one accepts) least most, (p, g) =>
    let run := runLength accepts most p.rest
    ((List.range (run + 1)).reverse.filter (least ≤ ·)).map fun n => (p.skip n, g)
  | .repeated inner least most, way =>
    let merge (ways : List Way) : List Way := if exact then ways else distinct ways
    let step (way : Way) : List Way := inner.ways exact way
    let begun := (List.range least).foldl (fun ways _ => merge (ways.flatMap step)) [way]
    let length := way.1.rest.length + 1
    let limit := (most.map fun most => min (most - least) length).getD length
    let search := begun.foldl (fun s way => s.go step most.isSome limit way) ({} : Search)
    merge search.found.reverse
  | .copy n anyCase, (p, g) =>
    match g.lookup n with
    | none => []
    | some t =>
      let here := p.rest.take t.length
      let isSame := if anyCase then here.map Char.toLower == t.map Char.toLower else here == t
      if isSame then [(p.skip t.length, g)] else []

/-- The ways in which parts match one behind the other. -/
def sequenceWays (exact : Bool) : List Regex → List Way → List Way
  | [], found => found
  | part :: parts, found =>
    let next := found.flatMap (part.ways exact)
    sequenceWays exact parts (if exact then next else distinct next)

def choiceWays (exact : Bool) : List Regex → Way → List Way
  | [], _ => []
  | part :: parts, way => part.ways exact way ++ choiceWays exact parts way

end

/-- A match: where it begins and ends, and what its groups have matched. -/
structure Match where
  start : Place
  stop : Place
  groups : Groups

namespace Match

def text (m : Match) : Text := m.start.upTo m.stop

/-- What a group has matched; group 0 is the whole. -/
def group (m : Match) (n : Nat) : Text :=
  if n = 0 then m.text else (m.groups.lookup n).getD []

end Match

/-- The longest of some ways; of several the first. -/
def longest? (ways : List Way) : Option Way :=
  ways.foldl (fun best way =>
    if best.all fun b => b.1.index < way.1.index then some way else best) none

def matchAt? (r : Regex) (p : Place) : Option Match :=
  (longest? (r.ways r.copies (p, []))).map fun (stop, groups) => { start := p, stop, groups }

def findIn (r : Regex) (index : Nat) (before : Option Char) : Text → Option Match
  | [] => r.matchAt? { index, before, rest := [] }
  | c :: rest =>
    match r.matchAt? { index, before, rest := c :: rest } with
    | some m => some m
    | none => findIn r (index + 1) (some c) rest

def find? (r : Regex) (p : Place) : Option Match := r.findIn p.index p.before p.rest

def isIn (r : Regex) (t : Text) : Bool := (r.find? { rest := t }).isSome

def isWhole (r : Regex) (t : Text) : Bool :=
  (r.ways r.copies ({ rest := t }, [])).any fun (p, _) => p.rest.isEmpty

end Regex
end LineShell
