import LineShell.Host.Utility.Comparing.Lines

/-! How the changes between two texts are written down. -/
namespace LineShell.Comparing

open LineShell.Alignment Utility

inductive Style
  | plain
  /-- With the lines around, each text for itself. -/
  | context
  /-- With the lines around, both texts together. -/
  | unified
  /-- Commands for an editor, from the end to the front. -/
  | commands
  /-- As commands, from the front to the end. -/
  | forward
  /-- Short commands with numbers of lines. -/
  | counted
  /-- Next to each other. -/
  | columns
  /-- One text for both, with conditions under a name. -/
  | merged (name : Text)
  deriving DecidableEq

def Style.isExact : Style → Bool
  | .commands | .forward => false
  | _ => true

structure Appearance where
  style : Style := .plain
  /-- How many lines around a change are shown. -/
  context : Nat := 0
  /-- Tabs are written as spaces. -/
  expands : Bool := false
  tabSize : Nat := 8
  /-- A tab stands in front of lines. -/
  indents : Bool := false
  /-- Nothing stands in front of empty lines. -/
  trimsBlank : Bool := false
  /-- What a line has to be like to be named in front of changes. -/
  heading : Option Regex := none
  /-- How wide columns are together. -/
  width : Nat := 130
  /-- Of lines that are the same, only the left one is shown, or none. -/
  leftOnly : Bool := false
  changesOnly : Bool := false

namespace Appearance

variable (a : Appearance)

def body (t : Text) : Text := if a.expands then Ignoring.untabbed a.tabSize 0 t else t

/-- A line with a mark in front of it. One that lacks its end is followed by a remark. -/
def marked (mark line : Text) : Text :=
  let isBlank := line == ['\n']
  let gap := if a.indents then ['\t'] else [' ']
  let front := if a.trimsBlank && isBlank && (mark == [] || mark == [' ']) then mark.filter (· != ' ')
    else mark ++ gap
  front ++ (a.body (bare line)).line ++
    if line.getLast? = some '\n' then [] else "\\ No newline at end of file\n".toList

def unmarked (line : Text) : Text := a.body line

/-- The numbers of some lines: the first and the last, or the last only. -/
def range (gap : Char) (first count : Nat) : Text :=
  if 1 < count then Text.decimal (first + 1) ++ gap :: Text.decimal (first + count)
  else Text.decimal (first + count)

def letter (c : Change) : Char :=
  if c.deleted = 0 then 'a' else if c.inserted = 0 then 'd' else 'c'

def plain (p : Pair) (c : Change) : Text :=
  range ',' c.first c.deleted ++ letter c :: (range ',' c.second c.inserted).line ++
    (p.removed c).flatMap (a.marked ['<']) ++
    (if c.deleted ≠ 0 ∧ c.inserted ≠ 0 then "---\n".toList else []) ++
    (p.added c).flatMap (a.marked ['>'])

/-! ### Commands -/

/-- The text that a command adds. A line of a point only would end it. -/
def commandText (lines : List Text) : Text :=
  let rec go : Bool → List Text → Text
    | isOpen, [] => if isOpen then ".\n".toList else []
    | isOpen, line :: rest =>
      (if isOpen then [] else "a\n".toList) ++
        if line = ".\n".toList then "..\n.\ns/.//\n".toList ++ go false rest
        else a.unmarked line ++ go true rest
  go true lines

def command (p : Pair) (c : Change) : Text :=
  range ',' c.first c.deleted ++ [letter c, '\n'] ++
    if c.inserted = 0 then [] else a.commandText (p.added c)

def forward (p : Pair) (c : Change) : Text :=
  letter c :: (range ' ' c.first c.deleted).line ++
    if c.inserted = 0 then [] else (p.added c).flatMap a.unmarked ++ ".\n".toList

def counted (p : Pair) (c : Change) : Text :=
  let numbers (letter : Char) (line count : Nat) : Text :=
    letter :: (Text.decimal line ++ ' ' :: Text.decimal count).line
  (if c.deleted = 0 then [] else numbers 'd' (c.first + 1) c.deleted) ++
    if c.inserted = 0 then []
    else numbers 'a' (c.first + c.deleted) c.inserted ++ (p.added c).flatMap a.unmarked

/-! ### With the lines around -/

/-- The part of a text that a hunk shows: where it begins, and how many lines it has. -/
def extent (size first last : Nat) : Nat × Nat :=
  let start := first - a.context
  (start, min size (last + a.context) - start)

def extents (p : Pair) (hunk : List Change) : (Nat × Nat) × (Nat × Nat) :=
  match hunk.head?, hunk.getLast? with
  | some c, some d =>
    (a.extent p.first.size c.first (d.first + d.deleted),
      a.extent p.second.size c.second (d.second + d.inserted))
  | _, _ => ((0, 0), (0, 0))

/-- The heading of a hunk: the last line that is one in front of it, and otherwise the one that has
been found before. -/
def headingOf (p : Pair) (searched start : Nat) (old : Option Text) : Option Text :=
  match a.heading with
  | none => none
  | some r =>
    let lines := (List.range (start - searched)).map fun k => p.first.getD (start - 1 - k) []
    (lines.find? fun line => r.isIn (bare line)).or old

def headingText : Option Text → Text
  | none => []
  | some line =>
    let t := ((bare line).dropWhile isWhite).take 40
    ' ' :: Ignoring.trimmed t

/-- Goes through hunks, each of which has a heading. -/
def withHeadings (p : Pair) (write : List Change → Text → Text) :
    Nat → Option Text → List (List Change) → Text
  | _, _, [] => []
  | searched, old, hunk :: rest =>
    let start := (a.extents p hunk).1.1
    let heading := a.headingOf p searched start old
    write hunk (headingText heading) ++ withHeadings p write start heading rest

def unifiedRange (extent : Nat × Nat) : Text :=
  let (start, count) := extent
  if count = 0 then Text.decimal start ++ ",0".toList
  else if count = 1 then Text.decimal (start + 1)
  else Text.decimal (start + 1) ++ ',' :: Text.decimal count

def unifiedLine (mark : Char) (line : Text) : Text :=
  let isBlank := a.trimsBlank && line == ['\n']
  let front := if mark = ' ' then (if isBlank then [] else if a.indents then ['\t'] else [' '])
    else mark :: if a.indents && !isBlank then ['\t'] else []
  front ++ (a.body (bare line)).line ++
    if line.getLast? = some '\n' then [] else "\\ No newline at end of file\n".toList

/-- The lines of a hunk of both texts from here on. -/
def unifiedLines (p : Pair) (last : Nat) : Nat → List Change → Text
  | i, [] => (List.range (last - i)).flatMap fun k => a.unifiedLine ' ' (p.first.getD (i + k) [])
  | i, c :: rest =>
    (List.range (c.first - i)).flatMap (fun k => a.unifiedLine ' ' (p.first.getD (i + k) [])) ++
      (p.removed c).flatMap (a.unifiedLine '-') ++ (p.added c).flatMap (a.unifiedLine '+') ++
      unifiedLines p last (c.first + c.deleted) rest

def unified (p : Pair) (hunk : List Change) (heading : Text) : Text :=
  let (one, two) := a.extents p hunk
  "@@ -".toList ++ unifiedRange one ++ " +".toList ++ unifiedRange two ++ " @@".toList ++ heading.line ++
    a.unifiedLines p (one.1 + one.2) one.1 hunk

/-- The lines of one text in a hunk, with marks on those that a change has to do with. -/
def contextLines (lines : Array Text) (extent : Nat × Nat)
    (marks : List (Nat × Nat × Char)) : Text :=
  (List.range extent.2).flatMap fun k =>
    let i := extent.1 + k
    let mark := (marks.find? fun (start, count, _) => start ≤ i && i < start + count).map (·.2.2)
    a.marked [mark.getD ' '] (lines.getD i [])

def contextual (p : Pair) (hunk : List Change) (heading : Text) : Text :=
  let (one, two) := a.extents p hunk
  let numbers (extent : Nat × Nat) : Text :=
    if extent.2 ≤ 1 then Text.decimal (extent.1 + extent.2)
    else Text.decimal (extent.1 + 1) ++ ',' :: Text.decimal (extent.1 + extent.2)
  let old := hunk.map fun c => (c.first, c.deleted, if c.inserted = 0 then '-' else '!')
  let new := hunk.map fun c => (c.second, c.inserted, if c.deleted = 0 then '+' else '!')
  "***************".toList ++ heading.line ++ "*** ".toList ++ numbers one ++ " ****\n".toList ++
    (if hunk.any (0 < ·.deleted) then a.contextLines p.first one old else []) ++
    "--- ".toList ++ numbers two ++ " ----\n".toList ++
    if hunk.any (0 < ·.inserted) then a.contextLines p.second two new else []

/-! ### Merged -/

def mergedLines (name : Text) (p : Pair) : Nat → List Change → Text
  | i, [] => (List.range (p.first.size - i)).flatMap fun k => a.unmarked (p.first.getD (i + k) [])
  | i, c :: rest =>
    let old := (p.removed c).flatMap a.unmarked
    let new := (p.added c).flatMap a.unmarked
    let closing (note : String) : Text := note.toList ++ name ++ " */\n".toList
    (List.range (c.first - i)).flatMap (fun k => a.unmarked (p.first.getD (i + k) [])) ++
      (if c.deleted = 0 then "#ifdef ".toList ++ name.line ++ new ++ closing "#endif /* "
      else "#ifndef ".toList ++ name.line ++ old ++
        if c.inserted = 0 then closing "#endif /* ! " else closing "#else /* " ++ new ++ closing "#endif /* ") ++
      mergedLines name p (c.first + c.deleted) rest

/-! ### Columns -/

/-- How wide a column is, and where the right one begins. -/
def measures : Nat × Nat :=
  let t := if a.expands then 1 else a.tabSize
  let g := t + 3
  let off := a.width / 2 + g / 2 + (if a.width % 2 = 1 ∧ g % 2 = 1 then 1 else 0)
  let off := off - off % t
  let half := min (off - 3) (a.width - off)
  (half, if half = 0 then a.width else off)

/-- Fills up with white space from one column to another. -/
def fill (start stop : Nat) : Text :=
  if a.expands then List.replicate (stop - start) ' '
  else
    let tabs := stop / a.tabSize - start / a.tabSize
    let start := if tabs = 0 then start else stop / a.tabSize * a.tabSize
    List.replicate tabs '\t' ++ List.replicate (stop - start) ' '

/-- As much of a line as a column has room for, and how far it comes; `indent` is where the column
begins. The positions are those in the line and those in what is written. -/
def half (indent bound : Nat) : Nat → Nat → Text → Text × Nat
  | _, written, [] => ([], written)
  | seen, written, c :: rest =>
    let next (t : Text) (seen written : Nat) : Text × Nat :=
      let (more, last) := half indent bound seen written rest
      (t ++ more, last)
    match c with
    | '\n' => ([], written)
    | '\t' =>
      let spaces := a.tabSize - seen % a.tabSize
      let stop := written + spaces
      if seen ≠ written then next [] (seen + spaces) written
      else if a.expands then
        let stop := min stop bound
        next (List.replicate (stop - written) ' ') (seen + spaces) stop
      else if stop < bound then next ['\t'] (seen + spaces) stop
      else next [] (seen + spaces) written
    | '\r' => next ('\r' :: a.fill 0 indent) 0 0
    | '\x08' =>
      if seen = 0 ∨ bound ≤ seen - 1 then next [] (seen - 1) written
      else if written ≤ seen - 1 then
        next (List.replicate (seen - 1 - written) ' ') (seen - 1) (seen - 1)
      else next ['\x08'] (seen - 1) (seen - 1)
    | c =>
      if 32 ≤ c.toNat ∧ c.toNat < 127 then
        if seen < bound then next [c] (seen + 1) (seen + 1) else next [] (seen + 1) written
      else next (if seen < bound then [c] else []) seen written

/-- Two lines next to each other, with a sign between them. -/
def row (left : Option Text) (sign : Char) (right : Option Text) : Text :=
  let (width, offset) := a.measures
  let ends (t : Option Text) : Bool := t.any fun line => line.getLast? == some '\n'
  let (front, column) := (left.map (a.half 0 width 0 0)).getD ([], 0)
  let sign := if sign = '|' ∧ ends left ≠ ends right then (if ends left then '/' else '\\') else sign
  let place := (width + offset - 1) / 2
  let (middle, column) := if sign = ' ' then ([], column)
    else (a.fill column place ++ [sign], max column place + 1)
  let behind := match right with
    | some line =>
      if line = ['\n'] then [] else a.fill column offset ++ (a.half offset width 0 0 line).1
    | none => []
  front ++ middle ++ behind ++ if ends left ∨ ends right then ['\n'] else []

def commonRows (p : Pair) (i j count count' : Nat) : Text :=
  let left (k : Nat) : Option Text := p.first[i + k]?
  let right (k : Nat) : Option Text := p.second[j + k]?
  if a.changesOnly then []
  else if a.leftOnly then (List.range count).flatMap fun k => a.row (left k) '(' none
  else
    let both := min count count'
    (List.range both).flatMap (fun k => a.row (left k) ' ' (right k)) ++
      (List.range (count' - both)).flatMap (fun k => a.row none ')' (right (both + k))) ++
      (List.range (count - both)).flatMap fun k => a.row (left (both + k)) '(' none

def columns (p : Pair) : Nat → Nat → List Change → Text
  | i, j, [] => a.commonRows p i j (p.first.size - i) (p.second.size - j)
  | i, j, c :: rest =>
    let both := min c.deleted c.inserted
    let left (k : Nat) : Option Text := p.first[c.first + k]?
    let right (k : Nat) : Option Text := p.second[c.second + k]?
    a.commonRows p i j (c.first - i) (c.second - j) ++
      (List.range both).flatMap (fun k => a.row (left k) '|' (right k)) ++
      (List.range (c.inserted - both)).flatMap (fun k => a.row none '>' (right (both + k))) ++
      (List.range (c.deleted - both)).flatMap (fun k => a.row (left (both + k)) '<' none) ++
      columns p (c.first + c.deleted) (c.second + c.inserted) rest

/-! ### All of it -/

def write (i : Ignoring) (p : Pair) (changes : List Change) : Text :=
  let shown := changes.filter fun c => !p.isPassedOver i c
  let around := (p.hunks i a.context changes).filter fun hunk => hunk.any fun c => !p.isPassedOver i c
  match a.style with
  | .plain => shown.flatMap (a.plain p)
  | .context => a.withHeadings p (a.contextual p) 0 none around
  | .unified => a.withHeadings p (a.unified p) 0 none around
  | .commands => shown.reverse.flatMap (a.command p)
  | .forward => shown.flatMap (a.forward p)
  | .counted => shown.flatMap (a.counted p)
  | .columns => a.columns p 0 0 shown
  | .merged name => a.mergedLines name p 0 shown

end Appearance
end LineShell.Comparing
