import LineShell.Host.Utility.Concatenate
import LineShell.Host.Utility.Version

/-! Lines in order, and what can be told of lines that are. -/
namespace LineShell.Utility

/-! ### Keys -/

/-- How the keys of lines are compared. -/
structure KeyOrder where
  /-- The letters of the options that say so. -/
  letters : List Char := []
  deriving DecidableEq

namespace KeyOrder

def has (o : KeyOrder) (c : Char) : Bool := o.letters.contains c

/-- Whether nothing but perhaps the direction is said. -/
def isPlain (o : KeyOrder) : Bool := o.letters.isEmpty

end KeyOrder

/-- A part of a line that lines are sorted by. Fields and characters are counted from 0. -/
structure SortKey where
  startField : Nat := 0
  startCharacter : Nat := 0
  /-- The field and the number of characters that the key ends with; no characters are the whole
  field. -/
  finish : Option (Nat × Nat) := none
  order : KeyOrder := {}
  skipsStart : Bool := false
  skipsEnd : Bool := false

def isFieldBlank (c : Char) : Bool := c == ' ' || c == '\t' || c == '\n'

/-- Where the next field starts, behind so many fields. -/
def skipFields (separator : Option Char) : Nat → Text → Text
  | 0, t => t
  | n + 1, t =>
    match separator with
    | some c => skipFields separator n ((t.dropWhile (· != c)).drop 1)
    | none => skipFields separator n ((t.dropWhile isFieldBlank).dropWhile (!isFieldBlank ·))

def skipToEnd (separator : Option Char) (n : Nat) (t : Text) : Text :=
  match separator with
  | some c => (skipFields separator n t).dropWhile (· != c)
  | none => skipFields separator (n + 1) t

def SortKey.text (k : SortKey) (separator : Option Char) (line : Text) : Text :=
  let start := skipFields separator k.startField line
  let start := if k.skipsStart then start.dropWhile isFieldBlank else start
  let start := start.drop k.startCharacter
  match k.finish with
  | none => start
  | some (field, 0) =>
    start.take (start.length - (skipToEnd separator field line).length)
  | some (field, characters) =>
    let rest := skipFields separator field line
    let rest := if k.skipsEnd then rest.dropWhile isFieldBlank else rest
    start.take (start.length - (rest.drop characters).length)

/-! ### Comparing -/

/-- A decimal number: its sign, and its digits before and behind the point. -/
structure Figures where
  negative : Bool := false
  whole : Text := []
  fraction : Text := []

/-- The number that a text begins with, and what follows it. -/
def Figures.ofText (t : Text) : Figures × Text :=
  let t := t.dropWhile isFieldBlank
  let (negative, t) := match t with
    | '-' :: rest => (true, rest)
    | _ => (false, t)
  let whole := t.takeWhile Char.isDigit
  let rest := t.drop whole.length
  let (fraction, rest) := match rest with
    | '.' :: more => (more.takeWhile Char.isDigit, more.dropWhile Char.isDigit)
    | _ => ([], rest)
  ({ negative, whole := whole.dropWhile (· == '0'),
     fraction := (fraction.reverse.dropWhile (· == '0')).reverse }, rest)

def Figures.compare (a b : Figures) : Ordering :=
  let isZero (x : Figures) : Bool := x.whole.isEmpty && x.fraction.isEmpty
  let size (a b : Figures) : Ordering :=
    (Ord.compare a.whole.length b.whole.length).then
      ((compareOfLessAndEq a.whole b.whole).then (compareOfLessAndEq a.fraction b.fraction))
  if isZero a ∧ isZero b then .eq
  else
    match a.negative && !isZero a, b.negative && !isZero b with
    | true, true => size b a
    | true, false => .lt
    | false, true => .gt
    | false, false => size a b

def unitRank (t : Text) : Nat :=
  match t.head? with
  | some 'K' | some 'k' => 1
  | some c => ("MGTPEZYRQ".toList.idxOf? c).elim 0 (· + 2)
  | none => 0

/-- The number of the month that a text begins with. -/
def monthRank (t : Text) : Nat :=
  let names := ["JAN", "FEB", "MAR", "APR", "MAY", "JUN", "JUL", "AUG", "SEP", "OCT", "NOV", "DEC"]
  let t := (t.dropWhile isFieldBlank).map Char.toUpper
  (names.findIdx? fun name => name.toList.isPrefixOf t).elim 0 (· + 1)

/-- A number with an exponent, as a whole number and a power of ten; none if the text begins with no
number. -/
def generalNumber? (t : Text) : Option (Int × Int) :=
  let t := t.dropWhile isWhite
  let (n, rest) := Figures.ofText (match t with
    | '+' :: rest => rest
    | _ => t)
  let front := t.take (t.length - rest.length)
  if !front.any Char.isDigit then none
  else
    let exponent : Int := match rest with
      | e :: '-' :: digits =>
        if e = 'e' ∨ e = 'E' then -((Text.natural? (digits.takeWhile Char.isDigit)).getD 0 : Int)
        else 0
      | e :: '+' :: digits =>
        if e = 'e' ∨ e = 'E' then ((Text.natural? (digits.takeWhile Char.isDigit)).getD 0 : Int)
        else 0
      | e :: digits =>
        if e = 'e' ∨ e = 'E' then ((Text.natural? (digits.takeWhile Char.isDigit)).getD 0 : Int)
        else 0
      | [] => 0
    let value : Int := (Text.natural? (n.whole ++ n.fraction)).getD 0
    some (if n.negative then -value else value, exponent - n.fraction.length)

/-- Compares numbers with exponents; what is no number comes first. -/
def compareGeneral (a b : Text) : Ordering :=
  match generalNumber? a, generalNumber? b with
  | none, none => .eq
  | none, some _ => .lt
  | some _, none => .gt
  | some (m, e), some (n, f) =>
    let least := min e f
    let scaled (n e : Int) : Int := n * Int.pow 10 (min (e - least).toNat 5000)
    Ord.compare (scaled m e) (scaled n f)

def KeyOrder.compare (o : KeyOrder) (a b : Text) : Ordering :=
  if o.has 'n' then (Figures.ofText a).1.compare (Figures.ofText b).1
  else if o.has 'g' then compareGeneral a b
  else if o.has 'h' then
    let (m, rest) := Figures.ofText a
    let (n, more) := Figures.ofText b
    let rank (x : Figures) (t : Text) : Int :=
      if x.whole.isEmpty ∧ x.fraction.isEmpty then 0
      else if x.negative then -(unitRank t : Int) else unitRank t
    (Ord.compare (rank m rest) (rank n more)).then (m.compare n)
  else if o.has 'M' then Ord.compare (monthRank a) (monthRank b)
  else if o.has 'V' then Version.compare a b
  else
    let shown (t : Text) : Text :=
      let t := if o.has 'd' then t.filter fun c => c.isAlphanum || isFieldBlank c
        else if o.has 'i' then t.filter fun c => 32 ≤ c.toNat && c.toNat < 127
        else t
      if o.has 'f' then t.map Char.toUpper else t
    compareOfLessAndEq (shown a) (shown b)

structure SortOrder where
  keys : List SortKey := []
  separator : Option Char := none
  /-- Lines with equal keys stay as they are. -/
  stable : Bool := false
  unique : Bool := false
  reverse : Bool := false

namespace SortOrder

def compareKeys (o : SortOrder) (a b : Text) : Ordering :=
  o.keys.foldl (fun order k =>
    order.then
      (let result := k.order.compare (k.text o.separator a) (k.text o.separator b)
       if k.order.has 'r' then result.swap else result)) .eq

/-- Compares lines. Where their keys are equal all their bytes count. -/
def compare (o : SortOrder) (a b : Text) : Ordering :=
  let whole := compareOfLessAndEq a b
  let whole := if o.reverse then whole.swap else whole
  if o.keys = [] then whole
  else (o.compareKeys a b).then (if o.stable || o.unique then .eq else whole)

end SortOrder

/-! ### `sort` -/

def orderLetters : List Char := "bdfghiMnRrV".toList

def refuseKey {α : Type} (message : String) (t : Text) : Tool α :=
  Tool.refuse 2 ((message ++ ": invalid field specification ").toList ++ quotePlainly t)

def keyNumber (what : String) (whole t : Text) : Tool (Nat × Text) := do
  match Text.natural? (t.takeWhile Char.isDigit) with
  | some n => return (n, t.dropWhile Char.isDigit)
  | none =>
    Tool.refuse 2 ((what ++ ": invalid count at start of ").toList ++ quotePlainly t ++
      (if whole = [] then [] else []))

def readKey (t : Text) : Tool SortKey := do
  let (field, rest) ← keyNumber "invalid number at field start" t t
  if field = 0 then refuseKey "field number is zero" t
  let (character, rest) ← match rest with
    | '.' :: rest => keyNumber "invalid number after '.'" t rest
    | rest => pure (1, rest)
  if character = 0 then refuseKey "character offset is zero" t
  let letters := rest.takeWhile orderLetters.contains
  let rest := rest.drop letters.length
  let (finish, more, rest) ← match rest with
    | ',' :: rest =>
      let (field, rest) ← keyNumber "invalid number after ','" t rest
      if field = 0 then refuseKey "field number is zero" t
      let (character, rest) ← match rest with
        | '.' :: rest => keyNumber "invalid number after '.'" t rest
        | rest => pure (0, rest)
      let more := rest.takeWhile orderLetters.contains
      pure (some (field - 1, character), more, rest.drop more.length)
    | rest => pure (none, [], rest)
  if rest ≠ [] then refuseKey "stray character in field spec" t
  return {
    startField := field - 1, startCharacter := character - 1, finish
    order := { letters := (letters ++ more).filter (· != 'b') }
    skipsStart := letters.contains 'b', skipsEnd := more.contains 'b' }

def checkOrder (o : SortOrder) (quiet : Bool) (name : Text) (lines : List Text) : Tool Nat := do
  let isWrong (a b : Text) : Bool :=
    match o.compare a b with
    | .gt => true
    | .eq => o.unique
    | .lt => false
  match (lines.zip lines.tail).findIdx? fun (a, b) => isWrong a b with
  | none => return 0
  | some i =>
    if !quiet then
      Tool.complain (name ++ ':' :: Text.decimal (i + 2) ++ ": disorder: ".toList ++
        lines.getD (i + 1) [])
    return 1

/-- Leaves out lines whose keys are equal to those of the line before. -/
def dropRepeated (o : SortOrder) (lines : List Text) : List Text :=
  let same (a b : Text) : Bool := (if o.keys = [] then o.compare a b else o.compareKeys a b) == .eq
  (lines.foldl (fun kept line =>
    match kept with
    | last :: _ => if same last line then kept else line :: kept
    | [] => [line]) []).reverse

def sort : Tool Nat := do
  let g ← Known.given
    { letters := "bdfghiMnRrVcCmsuz", valued := "koStTpB", named := "pB", status := 2
      long := [("ignore-leading-blanks", 'b'), ("dictionary-order", 'd'), ("ignore-case", 'f'),
        ("general-numeric-sort", 'g'), ("human-numeric-sort", 'h'), ("ignore-nonprinting", 'i'),
        ("month-sort", 'M'), ("numeric-sort", 'n'), ("random-sort", 'R'), ("reverse", 'r'),
        ("version-sort", 'V'), ("check", 'c'), ("merge", 'm'), ("stable", 's'), ("unique", 'u'),
        ("zero-terminated", 'z'), ("key", 'k'), ("output", 'o'), ("field-separator", 't'),
        ("buffer-size", 'S'), ("temporary-directory", 'T'), ("parallel", 'p'),
        ("batch-size", 'B')] }
  let letters := (g.options.map (·.1)).filter orderLetters.contains
  let shared : KeyOrder := { letters := letters.filter (· != 'b') }
  let separator ← match g.value? 't' with
    | none => pure none
    | some ['\\', '0'] => pure (some '\x00')
    | some [c] => pure (some c)
    | some [] => Tool.refuse 2 "empty tab".toList
    | some t => Tool.refuse 2 ("multi-character tab ".toList ++ quotePlainly t)
  let keys ← (g.options.filter (·.1 == 'k')).mapM fun (_, t) => readKey t
  let keys := keys.map fun k =>
    if k.order.isPlain ∧ !k.skipsStart ∧ !k.skipsEnd then
      { k with order := shared, skipsStart := g.has 'b', skipsEnd := g.has 'b' }
    else k
  let keys := if keys = [] ∧ (shared.letters.any (· != 'r') ∨ g.has 'b') then
      [{ order := shared, skipsStart := g.has 'b' }]
    else keys
  let o : SortOrder :=
    { keys, separator, stable := g.has 's', unique := g.has 'u', reverse := letters.contains 'r' }
  let mark := if g.has 'z' then '\x00' else '\n'
  let names := inputNames g.operands
  let v ← Tool.view
  for name in names do
    if name ≠ ['-'] then
      match v.find name with
      | .error cause =>
        Tool.refuse 2 ("cannot read: ".toList ++ quoteIfNeeded name ++ ": ".toList ++ reason cause)
      | .ok (_, node) =>
        if !v.files.mayRead node then
          Tool.refuse 2 ("cannot read: ".toList ++ quoteIfNeeded name ++
            ": Permission denied".toList)
  let mut all := []
  for name in names do
    match ← Tool.content name with
    | .ok t =>
      let parts := splitWhere (· == mark) t
      all := (if parts.getLast? = some [] then parts.dropLast else parts) :: all
    | .error cause =>
      let what := if cause = .os .isDirectory then "read failed: " else "cannot read: "
      Tool.refuse 2 (what.toList ++ quoteIfNeeded name ++ ": ".toList ++ reason cause)
  let lines := all.reverse.flatten
  if g.has 'c' ∨ g.has 'C' then
    let quiet := g.has 'C' || (g.value? 'c').any fun t =>
      t == "quiet".toList || t == "silent".toList
    return ← checkOrder o quiet (names.headD []) lines
  let sorted := lines.mergeSort fun a b => o.compare a b != .gt
  let sorted := if o.unique then dropRepeated o sorted else sorted
  let text := sorted.map (· ++ [mark])
  match g.value? 'o' with
  | none => for line in text do Tool.print line
  | some name =>
    match ← Tool.act (.openForWriting name (.write false)) with
    | .error cause =>
      Tool.refuse 2 ("open failed: ".toList ++ quoteIfNeeded name ++ ": ".toList ++ reason cause)
    | .ok descriptor =>
      let _ ← Tool.act (.write descriptor text.flatten)
      Tool.act (.close descriptor)
  return 0

/-! ### Neighbours -/

def groups (same : Text → Text → Bool) (lines : List Text) : List (List Text) :=
  (lines.foldl (fun found line =>
    match found with
    | (last :: more) :: rest =>
      if same last line then (line :: last :: more) :: rest else [line] :: (last :: more) :: rest
    | _ => [[line]]) []).reverse.map List.reverse

/-- Leaves out lines that are equal to the one before. -/
def unique : Tool Nat := do
  let g ← Known.given
    { letters := "cdDuiz", valued := "fsw"
      long := [("count", 'c'), ("repeated", 'd'), ("all-repeated", 'D'), ("unique", 'u'),
        ("ignore-case", 'i'), ("zero-terminated", 'z'), ("skip-fields", 'f'), ("skip-chars", 's'),
        ("check-chars", 'w')] }
  let number (c : Char) (what : String) : Tool (Option Nat) := do
    match g.value? c with
    | none => return none
    | some t =>
      match Text.natural? t with
      | some n => return some n
      | none => Tool.refuse 1 (t ++ (": invalid number of " ++ what).toList)
  let fields := (← number 'f' "fields to skip").getD 0
  let characters := (← number 's' "bytes to skip").getD 0
  let width ← number 'w' "bytes to compare"
  match g.operands.drop 2 with
  | extra :: _ => Tool.misuse 1 ("extra operand ".toList ++ quotePlainly extra)
  | [] => pure ()
  let input := g.operands.headD ['-']
  let t ← match ← Tool.content input with
    | .ok t => pure t
    | .error cause =>
      let what := if cause = .os .isDirectory then "error reading ".toList ++ quote input
        else quoteIfNeeded input
      Tool.refuse 1 (what ++ ": ".toList ++ reason cause)
  let mark := if g.has 'z' then '\x00' else '\n'
  let key (line : Text) : Text :=
    let t := (skipFields none fields line).drop characters
    let t := width.elim t fun n => t.take n
    if g.has 'i' then t.map Char.toUpper else t
  let parts := splitWhere (· == mark) t
  let lines := if parts.getLast? = some [] then parts.dropLast else parts
  let mut out := []
  for group in groups (fun a b => key a == key b) lines do
    let n := group.length
    let front := if g.has 'c' then padded 7 n ++ [' '] else []
    if g.has 'D' then
      if 1 < n then out := group.reverse.map (· ++ [mark]) ++ out
    else if (!g.has 'd' || 1 < n) && (!g.has 'u' || n == 1) then
      out := (front ++ group.headD [] ++ [mark]) :: out
  match g.operands[1]? with
  | some name =>
    if name ≠ ['-'] then
      match ← Tool.act (.openForWriting name (.write false)) with
      | .error cause =>
        Tool.refuse 1 (quoteIfNeeded name ++ ": ".toList ++ reason cause)
      | .ok descriptor =>
        let _ ← Tool.act (.write descriptor out.reverse.flatten)
        return 0
  | none => pure ()
  for line in out.reverse do Tool.print line
  return 0

def inputLines (name : Text) : Tool (List Text) := do
  match ← Tool.content name with
  | .ok t => return (linesOf t).map bare
  | .error cause => Tool.refuse 1 (quoteIfNeeded name ++ ": ".toList ++ reason cause)

/-- Where each line of two sorted lists is found: in the first, in the second, or in both. -/
def mergeLines : Nat → List Text → List Text → List (Nat × Text)
  | 0, _, _ => []
  | _ + 1, [], [] => []
  | fuel + 1, a :: rest, [] => (0, a) :: mergeLines fuel rest []
  | fuel + 1, [], b :: more => (1, b) :: mergeLines fuel [] more
  | fuel + 1, a :: rest, b :: more =>
    match compareOfLessAndEq a b with
    | .lt => (0, a) :: mergeLines fuel rest (b :: more)
    | .gt => (1, b) :: mergeLines fuel (a :: rest) more
    | .eq => (2, a) :: mergeLines fuel rest more

def isSorted (lines : List Text) : Bool := (lines.zip lines.tail).all fun (a, b) => !decide (b < a)

def compareLines : Tool Nat := do
  let g ← Known.given
    { letters := "123z", valued := "d", named := "d"
      long := [("check-order", 'c'), ("nocheck-order", 'n'), ("output-delimiter", 'd'),
        ("total", 't'), ("zero-terminated", 'z')] }
  match g.operands with
  | [] => Tool.misuse 1 "missing operand".toList
  | [one] => Tool.misuse 1 ("missing operand after ".toList ++ quotePlainly one)
  | [first, second] =>
    let a ← inputLines first
    let b ← inputLines second
    let delimiter := (g.value? 'd').getD ['\t']
    let shown (column : Nat) : Bool := !g.has (['1', '2', '3'].getD column '1')
    let front (column : Nat) : Text :=
      ((List.range column).filter shown).flatMap fun _ => delimiter
    let merged := mergeLines (a.length + b.length + 1) a b
    for (column, line) in merged do
      if shown column then Tool.printLine (front column ++ line)
    let unpaired := merged.any (·.1 != 2)
    let wrong := (if isSorted a then [] else [1]) ++ (if isSorted b then [] else [2])
    if !g.has 'n' ∧ (unpaired ∨ g.has 'c') ∧ wrong ≠ [] then
      for n in wrong do
        Tool.blame 1 ("file ".toList ++ Text.decimal n ++ " is not in sorted order".toList)
      Tool.blame 1 "input is not in sorted order".toList
    return 0
  | _ :: _ :: extra :: _ => Tool.misuse 1 ("extra operand ".toList ++ quotePlainly extra)

end LineShell.Utility
