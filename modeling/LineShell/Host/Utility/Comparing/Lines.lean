import Std.Data.HashMap
import LineShell.Host.Regex.Parser
import LineShell.Host.Utility.Comparing.Alignment
import LineShell.Host.Utility.Concatenate

/-! What counts as a difference between the lines of two texts. -/
namespace LineShell.Comparing

open LineShell.Alignment Utility

inductive Spaces
  | none
  /-- Tabs are as many spaces as it takes to the next stop. -/
  | tabs
  /-- At the end of a line. -/
  | trailing
  | tabsAndTrailing
  /-- How much there is. -/
  | amount
  | all
  deriving DecidableEq

namespace Spaces

def also (s more : Spaces) : Spaces :=
  match s, more with
  | .all, _ | _, .all => .all
  | .amount, _ | _, .amount => .amount
  | .none, m => m
  | s, .none => s
  | .tabs, .tabs => .tabs
  | .trailing, .trailing => .trailing
  | _, _ => .tabsAndTrailing

/-- Whether the end of a line may have white space. -/
def ignoresEnd : Spaces → Bool
  | .none | .tabs => false
  | _ => true

end Spaces

/-- What does not count when lines are compared. -/
structure Ignoring where
  anyCase : Bool := false
  spaces : Spaces := .none
  /-- Changes of empty lines only. -/
  blankLines : Bool := false
  /-- Changes of lines only that one of these fits. -/
  patterns : List Regex := []
  /-- Where tabs lead. -/
  tabSize : Nat := 8

namespace Ignoring

def squeezed : Text → Text
  | [] => []
  | [c] => if isWhite c then [' '] else [c]
  | c :: d :: rest =>
    if isWhite c then if isWhite d then squeezed (d :: rest) else ' ' :: squeezed (d :: rest)
    else c :: squeezed (d :: rest)

def untabbed (size : Nat) : Nat → Text → Text
  | _, [] => []
  | column, c :: rest =>
    match c with
    | '\t' =>
      let n := size - column % size
      List.replicate n ' ' ++ untabbed size (column + n) rest
    | '\r' => c :: untabbed size 0 rest
    | '\x08' => c :: untabbed size (column - 1) rest
    | c => c :: untabbed size (column + 1) rest

def trimmed (t : Text) : Text := (t.reverse.dropWhile isWhite).reverse

/-- What counts of a line, and whether its end counts: that it has none. -/
def key (i : Ignoring) (line : Text) : Text × Bool :=
  let t := bare line
  let t := match i.spaces with
    | .none => t
    | .tabs => untabbed i.tabSize 0 t
    | .trailing => trimmed t
    | .tabsAndTrailing => untabbed i.tabSize 0 (trimmed t)
    | .amount => squeezed (trimmed t)
    | .all => t.filter (!isWhite ·)
  (if i.anyCase then t.map Char.toLower else t,
    line.getLast? != some '\n' && !i.spaces.ignoresEnd)

def passesOver (i : Ignoring) : Bool := i.blankLines || !i.patterns.isEmpty

/-- Whether nobody cares about a line that is added or removed. -/
def isTrivial (i : Ignoring) (line : Text) : Bool :=
  let t := bare line
  let rest := if !i.spaces.ignoresEnd then t
    else
      let inner := t.dropWhile isWhite
      if inner = [] ∨ i.spaces = .amount ∨ i.spaces = .all then inner else t
  (i.blankLines && rest == []) || i.patterns.any (·.isIn t)

end Ignoring

structure Pair where
  first : Array Text
  second : Array Text

namespace Pair

/-- The lines of two texts; with `completes` the last line of each has an end. -/
def ofTexts (completes : Bool) (first second : Text) : Pair :=
  let lines (t : Text) : Array Text :=
    let ls := linesOf t
    (if completes then ls.map fun l => (bare l).line else ls).toArray
  { first := lines first, second := lines second }

def sameFront (p : Pair) : Nat :=
  let both := min p.first.size p.second.size
  ((List.range both).find? fun i => p.first.getD i [] != p.second.getD i []).getD both

/-- How many lines at the end are the same, of at most so many. -/
def sameEnd (p : Pair) (limit : Nat) : Nat :=
  ((List.range limit).find? fun i =>
    p.first.getD (p.first.size - 1 - i) [] != p.second.getD (p.second.size - 1 - i) []).getD limit

/-- Gives a number to every line that is there, and to what counts of it the same one everywhere. -/
def classes (i : Ignoring) (lines : List Text) (known : Std.HashMap (String × Bool) Nat) :
    Array Nat × Std.HashMap (String × Bool) Nat :=
  lines.foldl
    (fun (found, known) line =>
      let (shown, isLast) := i.key line
      let key := (String.ofList shown, isLast)
      match known[key]? with
      | some n => (found.push n, known)
      | none => (found.push known.size, known.insert key known.size))
    (#[], known)

/-- The changes that lead from the first text to the second. Lines at the front and at the end that
are the same are not looked at, but for some next to the others. -/
def changes (p : Pair) (i : Ignoring) (horizon : Nat) (minimal : Bool) : List Change :=
  let front := p.sameFront - horizon
  let limit := min p.first.size p.second.size - front
  let rear := p.sameEnd limit - horizon
  let middle (lines : Array Text) : List Text :=
    (lines.toList.drop front).take (lines.size - front - rear)
  let (xs, known) := classes i (middle p.first) {}
  let (ys, known) := classes i (middle p.second) known
  (align known.size xs ys minimal).map fun c =>
    { c with first := c.first + front, second := c.second + front }

def removed (p : Pair) (c : Change) : List Text :=
  (List.range c.deleted).map fun k => p.first.getD (c.first + k) []

def added (p : Pair) (c : Change) : List Text :=
  (List.range c.inserted).map fun k => p.second.getD (c.second + k) []

def isPassedOver (p : Pair) (i : Ignoring) (c : Change) : Bool :=
  i.passesOver && (p.removed c).all i.isTrivial && (p.added c).all i.isTrivial

/-- Puts changes together that are so near to each other that their surroundings meet. -/
def hunks (p : Pair) (i : Ignoring) (context : Nat) : List Change → List (List Change)
  | [] => []
  | c :: rest =>
    match hunks p i context rest with
    | [] => [[c]]
    | hunk :: more =>
      match hunk with
      | [] => [c] :: more
      | d :: _ =>
        let distance := if p.isPassedOver i c || p.isPassedOver i d then context else 2 * context + 1
        if d.first < c.first + c.deleted + distance then (c :: hunk) :: more else [c] :: hunk :: more

end Pair
end LineShell.Comparing
