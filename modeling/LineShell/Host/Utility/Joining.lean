import LineShell.Host.Utility.Fields

/-! `join`: lines of two sorted files that agree in a field. -/
namespace LineShell.Utility

structure FieldLine where
  text : Text := []
  fields : List Text := []

/-- Which of the two files something belongs to. -/
inductive JoinSide
  | first
  | second
  deriving DecidableEq

/-- A field that is printed: the common one, or one of a file. -/
inductive JoinField
  | common
  | ofSide (side : JoinSide) (index : Nat)

structure Joining where
  /-- The indices of the fields that are compared. -/
  firstKey : Nat := 0
  secondKey : Nat := 0
  /-- The sign between fields; without one blanks are between them. -/
  tab : Option Char := none
  /-- Lines are not cut at all. -/
  whole : Bool := false
  filler : Text := []
  anyCase : Bool := false
  /-- What is printed; without that all fields are. -/
  fields : Option (List JoinField) := none
  /-- So many fields of each file are printed. -/
  counts : Option (Nat × Nat) := none
  /-- Whether lines without a partner are printed, and those with one. -/
  firstAlone : Bool := false
  secondAlone : Bool := false
  pairs : Bool := true
  mark : Char := '\n'

namespace Joining

/-- Whether fields are separated by a byte if no sign is given. -/
def isGap (c : Char) : Bool := c == ' ' || c == '\t' || c == '\n'

/-- The fields of a line between blanks; blanks behind the last one begin an empty one. -/
def blankFields : Nat → Text → List Text
  | 0, _ => []
  | fuel + 1, t =>
    let field := t.takeWhile (!isGap ·)
    match t.drop field.length with
    | [] => [field]
    | _ :: rest => field :: blankFields fuel (rest.dropWhile isGap)

def line (j : Joining) (t : Text) : FieldLine :=
  let fields :=
    if t = [] then []
    else if j.whole then [t]
    else
      match j.tab with
      | some c => splitWhere (· == c) t
      | none =>
        let t := t.dropWhile isGap
        if t = [] then [] else blankFields (t.length + 1) t
  { text := t, fields }

/-- The index of the field of a file that is compared. -/
def key (j : Joining) : JoinSide → Nat
  | .first => j.firstKey
  | .second => j.secondKey

def compare (j : Joining) (a : JoinSide × FieldLine) (b : JoinSide × FieldLine) : Ordering :=
  let value (x : JoinSide × FieldLine) : Text :=
    let t := (x.2.fields[j.key x.1]?).getD []
    if j.anyCase then t.map Char.toUpper else t
  compareOfLessAndEq (value a) (value b)

def shown (j : Joining) (l : FieldLine) (index : Nat) : Text :=
  match l.fields[index]? with
  | none | some [] => j.filler
  | some t => t

/-- The fields of a line other than the one that is compared. -/
def others (j : Joining) (side : JoinSide) (l : FieldLine) : List Text :=
  let count := match j.counts, side with
    | some (n, _), .first => n
    | some (_, n), .second => n
    | none, _ => l.fields.length
  ((List.range count).filter (· ≠ j.key side)).map (j.shown l)

/-- The text of a pair, or of a line without a partner. -/
def text (j : Joining) (first second : Option FieldLine) : Text :=
  let blank : FieldLine := {}
  let common := match first, second with
    | some l, _ => j.shown l j.firstKey
    | none, some l => j.shown l j.secondKey
    | none, none => j.filler
  let parts := match j.fields with
    | some fields => fields.map fun f =>
      match f with
      | .common => common
      | .ofSide .first n => j.shown (first.getD blank) n
      | .ofSide .second n => j.shown (second.getD blank) n
    | none =>
      common :: (j.others .first (first.getD blank) ++ j.others .second (second.getD blank))
  Text.joined (if j.whole then ['\n'] else [j.tab.getD ' ']) parts ++ [j.mark]

end Joining

/-- Whether the order of the lines is checked. -/
inductive OrderCheck
  | never
  /-- Once there are lines without a partner. -/
  | lazily
  | always

structure JoinInput where
  side : JoinSide
  name : Text
  /-- The lines that have not been read. -/
  lines : List Text
  /-- The line that was read last, and its number. -/
  last : Option FieldLine := none
  number : Nat := 0
  /-- A line out of order has been found. -/
  warned : Bool := false

/-- Both files, and whether a line without a partner has been found. -/
structure JoinState where
  first : JoinInput
  second : JoinInput
  unpaired : Bool := false

namespace JoinState

def input (s : JoinState) : JoinSide → JoinInput
  | .first => s.first
  | .second => s.second

def setInput (s : JoinState) (i : JoinInput) : JoinState :=
  match i.side with
  | .first => { s with first := i }
  | .second => { s with second := i }

end JoinState

namespace Joining

/-- Reads the next line of a file; it should not be less than the one before. -/
def next (j : Joining) (check : OrderCheck) (s : JoinState) (side : JoinSide) :
    Tool (Option FieldLine × JoinState) := do
  let i := s.input side
  match i.lines with
  | [] => return (none, s)
  | t :: lines =>
    let l := j.line t
    let number := i.number + 1
    let checks := match check with
      | .never => false
      | .lazily => s.unpaired
      | .always => true
    let isDisorder := checks && !i.warned &&
      i.last.any fun before => j.compare (side, before) (side, l) == .gt
    if isDisorder then
      let message := i.name ++ ':' :: Text.decimal number ++ ": is not sorted: ".toList ++ l.text
      match check with
      | .always => Tool.refuse 1 message
      | _ => Tool.complain message
    let i := { i with lines, last := some l, number, warned := i.warned || isDisorder }
    return (some l, s.setInput i)

/-- Reads the lines that agree with one of the other file; the first that does not comes last. -/
def group (j : Joining) (check : OrderCheck) (side : JoinSide) (other : JoinSide × FieldLine) :
    Nat → JoinState → Tool (List FieldLine × Option FieldLine × JoinState)
  | 0, s => return ([], none, s)
  | fuel + 1, s => do
    match ← j.next check s side with
    | (none, s) => return ([], none, s)
    | (some l, s) =>
      if j.compare (side, l) other = .eq then
        let (more, last, s) ← j.group check side other fuel s
        return (l :: more, last, s)
      else return ([], some l, s)

/-- Joins the files from these lines on. What is left when one of them ends comes back. -/
def merge (j : Joining) (check : OrderCheck) :
    Nat → Option FieldLine → Option FieldLine → JoinState →
    Tool (Option FieldLine × Option FieldLine × JoinState)
  | 0, a, b, s => return (a, b, s)
  | fuel + 1, a, b, s => do
    match a, b with
    | some x, some y =>
      match j.compare (.first, x) (.second, y) with
      | .lt =>
        if j.firstAlone then Tool.print (j.text (some x) none)
        let (a, s) ← j.next check s .first
        j.merge check fuel a b { s with unpaired := true }
      | .gt =>
        if j.secondAlone then Tool.print (j.text none (some y))
        let (b, s) ← j.next check s .second
        j.merge check fuel a b { s with unpaired := true }
      | .eq =>
        let (xs, a, s) ← j.group check .first (.second, y) (s.first.lines.length + 1) s
        let (ys, b, s) ← j.group check .second (.first, x) (s.second.lines.length + 1) s
        if j.pairs then
          for x in x :: xs do
            for y in y :: ys do Tool.print (j.text (some x) (some y))
        j.merge check fuel a b s
    | a, b => return (a, b, s)

def rest (j : Joining) (check : OrderCheck) (side : JoinSide) :
    Nat → Option FieldLine → JoinState → Tool JoinState
  | 0, _, s => return s
  | fuel + 1, l, s => do
    match l with
    | none => return s
    | some l =>
      let prints := if side = .first then j.firstAlone else j.secondAlone
      if prints then
        Tool.print (if side = .first then j.text (some l) none else j.text none (some l))
      let (l, s) ← j.next check s side
      j.rest check side fuel l s

end Joining

def fieldIndex (t : Text) : Tool Nat := do
  match Text.natural? t with
  | some (n + 1) => return n
  | _ => Tool.refuse 1 ("invalid field number: ".toList ++ quotePlainly t)

def joinField (t : Text) : Tool JoinField := do
  let wrong (what : String) : Tool JoinField := Tool.refuse 1 (what.toList ++ quotePlainly t)
  match t with
  | ['0'] => return .common
  | '1' :: '.' :: index => return .ofSide .first (← fieldIndex index)
  | '2' :: '.' :: index => return .ofSide .second (← fieldIndex index)
  | c :: _ =>
    if "012".toList.contains c then wrong "invalid field specifier: "
    else wrong "invalid file number in field spec: "
  | [] => wrong "invalid file number in field spec: "

def setKey (old : Option Nat) (new : Nat) : Tool (Option Nat) := do
  match old with
  | some n =>
    if n ≠ new then
      Tool.refuse 1 ("incompatible join fields ".toList ++ Text.decimal n ++ ", ".toList ++
        Text.decimal new)
  | none => pure ()
  return some new

/-- Prints pairs of lines of two files that agree in a field. -/
def joinLines : Tool Nat := do
  let g ← Known.given
    { letters := "iz", valued := "12javeto"
      long := [("ignore-case", 'i'), ("check-order", 'C'), ("nocheck-order", 'N'),
        ("header", 'H'), ("zero-terminated", 'z')] }
  let mut j : Joining := { anyCase := g.has 'i', mark := if g.has 'z' then '\x00' else '\n' }
  let mut firstKey : Option Nat := none
  let mut secondKey : Option Nat := none
  let mut counted := false
  for (c, value) in g.options do
    match c with
    | '1' => firstKey ← setKey firstKey (← fieldIndex value)
    | '2' => secondKey ← setKey secondKey (← fieldIndex value)
    | 'j' =>
      let index ← fieldIndex value
      firstKey ← setKey firstKey index
      secondKey ← setKey secondKey index
    | 'a' | 'v' =>
      if c = 'v' then j := { j with pairs := false }
      match value with
      | ['1'] => j := { j with firstAlone := true }
      | ['2'] => j := { j with secondAlone := true }
      | value => Tool.refuse 1 ("invalid field number: ".toList ++ quotePlainly value)
    | 'e' => j := { j with filler := value }
    | 't' =>
      let tab ← match value with
        | [] => pure '\n'
        | [c] => pure c
        | ['\\', '0'] => pure '\x00'
        | value => Tool.refuse 1 ("multi-character tab ".toList ++ quotePlainly value)
      if j.tab.any (· ≠ tab) then Tool.refuse 1 "incompatible tabs".toList
      j := { j with tab := some tab, whole := tab == '\n' }
    | 'o' =>
      if value = "auto".toList then counted := true
      else
        let fields ← (splitWhere (fun c => c == ',' || c == ' ' || c == '\t') value).mapM joinField
        j := { j with fields := some (j.fields.getD [] ++ fields) }
    | _ => pure ()
  j := { j with firstKey := firstKey.getD 0, secondKey := secondKey.getD 0 }
  let check : OrderCheck :=
    match g.options.reverse.find? fun (c, _) => c == 'N' || c == 'C' with
    | some ('N', _) => .never
    | some _ => .always
    | none => .lazily
  match g.operands with
  | [] => Tool.misuse 1 "missing operand".toList
  | [name] => Tool.misuse 1 ("missing operand after ".toList ++ quotePlainly name)
  | _ :: _ :: extra :: _ => Tool.misuse 1 ("extra operand ".toList ++ quotePlainly extra)
  | [one, two] =>
    let opened (name : Text) : Tool Feed := do
      match ← Feed.ofName name with
      | .ok feed => return feed
      | .error cause => Tool.refuse 1 (quoteIfNeeded name ++ ": ".toList ++ reason cause)
    let first ← opened one
    let second ← opened two
    if one = ['-'] ∧ two = ['-'] then
      Tool.refuse 1 "both files cannot be standard input".toList
    let lines (feed : Feed) : Tool (List Text) := do
      let (t, feed) ← Feed.rest Activity.readLimit [] feed
      match feed.failure? with
      | some errno => Tool.refuse 1 ("read error: ".toList ++ errno.text)
      | none => return (piecesOf j.mark t).map (withoutMark j.mark)
    let s : JoinState :=
      { first := { side := .first, name := one, lines := ← lines first }
        second := { side := .second, name := two, lines := ← lines second } }
    let fuel := s.first.lines.length + s.second.lines.length + 2
    let (a, s) ← j.next check s .first
    let (b, s) ← j.next check s .second
    let width (l : Option FieldLine) : Nat := (l.map (·.fields.length)).getD 0
    if counted then j := { j with counts := some (width a, width b) }
    let (a, b, s) ←
      if g.has 'H' ∧ (a.isSome ∨ b.isSome) then do
        Tool.print (j.text a b)
        let fresh (i : JoinInput) : JoinInput := { i with last := none }
        let s := { s with first := fresh s.first, second := fresh s.second }
        let (a, s) ← j.next check s .first
        let (b, s) ← j.next check s .second
        pure (a, b, s)
      else pure (a, b, s)
    let (a, b, s) ← j.merge check fuel a b s
    let s ← j.rest check .first fuel a s
    let s ← j.rest check .second fuel b s
    if s.first.warned ∨ s.second.warned then Tool.refuse 1 "input is not in sorted order".toList
    return 0

end LineShell.Utility
