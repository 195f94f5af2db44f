import LineShell.Host.Utility.Concatenate

/-! Programs that measure lines in columns: `fold`, `expand` and `unexpand`. -/
namespace LineShell.Utility

def columnLimit : Nat := 18446744073709551615

/-! ### `fold` -/

structure Folding where
  width : Nat := 80
  /-- Bytes are counted, not columns. -/
  bytes : Bool := false
  /-- Lines are broken behind blanks. -/
  blanks : Bool := false

namespace Folding

def advance (f : Folding) (column : Nat) (c : Char) : Nat :=
  if f.bytes then column + 1
  else
    match c with
    | '\x08' => column - 1
    | '\r' => 0
    | '\t' => column + 8 - column % 8
    | _ => column + 1

def columnOf (f : Folding) (t : Text) : Nat := t.foldl f.advance 0

/-- What has been printed of a line, and what is still held back; both last characters first. -/
structure State where
  out : Text := []
  held : Text := []
  column : Nat := 0

/-- Takes a character. A line that it would make too long is broken in front of it. -/
def take (f : Folding) (s : State) (c : Char) : State :=
  if c = '\n' then { out := '\n' :: (s.held ++ s.out) }
  else
    let column := f.advance s.column c
    if column ≤ f.width then { s with held := c :: s.held, column }
    else
      let word := if f.blanks then s.held.takeWhile fun d => d != ' ' && d != '\t' else s.held
      let (front, word) := if word.length < s.held.length then (s.held.drop word.length, word)
        else (s.held, [])
      let broken : State :=
        if front = [] then s
        else { out := '\n' :: (front ++ s.out), held := word, column := f.columnOf word.reverse }
      let column := f.advance broken.column c
      if f.width < column ∧ broken.held ≠ [] then
        { out := '\n' :: (broken.held ++ broken.out), held := [c], column := f.advance 0 c }
      else { broken with held := c :: broken.held, column }

def apply (f : Folding) (t : Text) : Text :=
  let s := t.foldl f.take {}
  (s.held ++ s.out).reverse

end Folding

def foldLines : Tool Nat := do
  let g ← Known.given
    { letters := "bs", valued := "w", counted := some 'w'
      long := [("bytes", 'b'), ("spaces", 's'), ("width", 'w')] }
  let width ← match g.value? 'w' with
    | none => pure 80
    | some t =>
      let wrong (why : String) : Tool Nat :=
        Tool.refuse 1 ("invalid number of columns: ".toList ++ quotePlainly t ++ why.toList)
      match Text.natural? (if t.head? = some '+' then t.drop 1 else t) with
      | none => wrong ""
      | some 0 => wrong ": Numerical result out of range"
      | some n =>
        if columnLimit < n then wrong ": Value too large for defined data type" else pure n
  let f : Folding := { width, bytes := g.has 'b', blanks := g.has 's' }
  let step (_ : Unit) (line : Text) : Tool (ForInStep Unit) := do
    Tool.print (f.apply line)
    return .yield ()
  eachLine 1 step (inputNames g.operands) ()
  return 0

/-! ### Tabs -/

structure TabStops where
  /-- The columns of the first tabs. -/
  columns : List Nat := []
  /-- Behind these, tabs lead to multiples of a number. -/
  multiple : Option Nat := none
  /-- Behind these, tabs are so far apart. -/
  step : Option Nat := none

namespace TabStops

def next? (s : TabStops) (column : Nat) : Option Nat :=
  let after (n : Nat) (base : Nat) : Nat := column + (n - (column - base) % n)
  let size (o : Option Nat) : Option Nat := o.filter (0 < ·)
  match s.columns with
  | [] => some (after ((size s.multiple).getD ((size s.step).getD 8)) 0)
  | columns =>
    match columns, size s.multiple, size s.step with
    | [n], none, none => some (after n 0)
    | columns, multiple, step =>
      match columns.find? (column < ·), multiple, step with
      | some n, _, _ => some n
      | none, some n, _ => some (after n 0)
      | none, none, some n => some (after n (columns.getLastD 0))
      | none, none, none => none

/-- What the value of an option says about tabs, read sign by sign. -/
structure Reading where
  stops : TabStops
  /-- The sign in front of the numbers. -/
  sign : Option Char := none
  digits : Option Text := none
  valid : Bool := true

def Reading.close (r : Reading) : Tool Reading := do
  let some digits := r.digits | return r
  let n := (Text.natural? digits).getD 0
  let r := { r with digits := none }
  let once (old : Option Nat) (c : Char) (stops : TabStops) : Tool Reading := do
    if old.any (0 < ·) then
      Tool.complain ('\'' :: c :: "' specifier only allowed with the last value".toList)
      Tool.stop 1
    return { r with stops }
  match r.sign with
  | some '/' => once r.stops.multiple '/' { r.stops with multiple := some n }
  | some _ => once r.stops.step '+' { r.stops with step := some n }
  | none => return { r with stops := { r.stops with columns := r.stops.columns ++ [n] } }

def Reading.run (r : Reading) : Text → Tool Reading
  | [] => if r.valid then r.close else Tool.stop 1
  | c :: rest => do
    if c = ',' ∨ c = ' ' ∨ c = '\t' then (← r.close).run rest
    else if c = '/' ∨ c = '+' then
      if r.digits.isSome then
        Tool.complain ('\'' :: c :: "' specifier not at start of number: ".toList ++
          quotePlainly (c :: rest))
      { r with sign := some c, valid := r.valid && r.digits.isNone }.run rest
    else if c.isDigit then
      let digits := r.digits.getD [] ++ [c]
      let tooLarge := r.valid && columnLimit < (Text.natural? digits).getD 0
      if tooLarge then
        Tool.complain ("tab stop is too large ".toList ++
          quotePlainly (digits ++ rest.takeWhile Char.isDigit))
      { r with digits := some digits, valid := r.valid && !tooLarge }.run rest
    else
      Tool.complain ("tab size contains invalid character(s): ".toList ++ quotePlainly (c :: rest))
      Tool.stop 1

def ofOptions (values : List Text) : Tool TabStops := do
  let mut stops : TabStops := {}
  for value in values do stops := (← Reading.run { stops } value).stops
  let mut before := 0
  for n in stops.columns do
    if n = 0 then Tool.refuse 1 "tab size cannot be 0".toList
    if n ≤ before then Tool.refuse 1 "tab sizes must be ascending".toList
    before := n
  if stops.multiple.any (0 < ·) ∧ stops.step.any (0 < ·) then
    Tool.refuse 1 "'/' specifier is mutually exclusive with '+'".toList
  return stops

end TabStops

structure TabChange where
  stops : TabStops
  /-- Blanks behind other characters are replaced too. -/
  everywhere : Bool := true

/-- A line in which tabs are replaced: what has been printed, the last character first, the column,
and whether tabs are still to be replaced. -/
structure TabState where
  out : Text := []
  column : Nat := 0
  active : Bool := true

namespace TabChange

def expand (t : TabChange) (s : TabState) (c : Char) : TabState :=
  if !s.active then { s with out := c :: s.out }
  else
    let active := t.everywhere || c == ' ' || c == '\t'
    match c with
    | '\t' =>
      let next := (t.stops.next? s.column).getD (s.column + 1)
      { out := List.replicate (next - s.column) ' ' ++ s.out, column := next, active }
    | '\x08' => { out := c :: s.out, column := s.column - 1, active }
    | c => { out := c :: s.out, column := s.column + 1, active }

end TabChange

/-- A line in which blanks are replaced by tabs. -/
structure BlankState extends TabState where
  /-- Blanks that may become a tab. -/
  held : Text := []
  /-- The first of them stands right in front of a tab stop. -/
  single : Bool := false
  /-- A blank came last. -/
  blank : Bool := true

namespace BlankState

def release (s : BlankState) : BlankState :=
  let held := if 1 < s.held.length ∧ s.single then '\t' :: s.held.drop 1 else s.held
  if held = [] then s else { s with out := held.reverse ++ s.out, held := [], single := false }

/-- Prints a character behind the blanks that were held back. -/
def put (s : BlankState) (everywhere : Bool) (c shown : Char) : BlankState :=
  let s := s.release
  let blank := c == ' ' || c == '\t'
  { s with out := shown :: s.out, blank, active := s.active && (everywhere || blank) }

end BlankState

namespace TabChange

/-- Holds a blank back, or replaces those before it by a tab. -/
def unexpand (t : TabChange) (s : BlankState) (c : Char) : BlankState :=
  if !s.active then { s with out := c :: s.out }
  else if c = ' ' ∨ c = '\t' then
    match t.stops.next? s.column with
    | none => { s.put t.everywhere c c with active := false }
    | some next =>
      let tabbed (s : BlankState) (column : Nat) : BlankState :=
        let held := if s.single then (s.held.take 1).map fun _ => '\t' else []
        { s with held, column }.put t.everywhere c '\t'
      if c = '\t' then tabbed s next
      else
        let column := s.column + 1
        if s.blank ∧ column = next then tabbed s column
        else
          { s with column, held := s.held ++ [c], single := s.single || column == next
                   blank := true }
  else
    let column := if c = '\x08' then s.column - 1 else s.column + 1
    { s.put t.everywhere c c with column }

end TabChange

/-- Changes each line of some inputs; lines go on from one input to the next. -/
def changeLines (names : List Text) (f : Text → Text) : Tool Nat := do
  let step (rest : Text) (piece : Text) : Tool (ForInStep Text) := do
    let line := rest ++ piece
    if line.getLast? = some '\n' then
      Tool.print (f line)
      return .yield []
    else return .yield line
  let rest ← eachLine 1 step (inputNames names) []
  Tool.print (f rest)
  return 0

def expandTabs : Tool Nat := do
  let g ← Known.given
    { letters := "i", valued := "t", counted := some 't'
      long := [("initial", 'i'), ("tabs", 't')] }
  let stops ← TabStops.ofOptions ((g.options.filter (·.1 == 't')).map (·.2))
  let t : TabChange := { stops, everywhere := !g.has 'i' }
  changeLines g.operands fun line => (line.foldl t.expand {}).out.reverse

def unexpandTabs : Tool Nat := do
  let g ← Known.given
    { letters := "a", valued := "t", counted := some 't'
      long := [("all", 'a'), ("first-only", 'F'), ("tabs", 't')] }
  let stops ← TabStops.ofOptions ((g.options.filter (·.1 == 't')).map (·.2))
  let t : TabChange := { stops, everywhere := (g.has 'a' || g.has 't') && !g.has 'F' }
  changeLines g.operands fun line =>
    (BlankState.release (line.foldl t.unexpand {})).out.reverse

end LineShell.Utility
