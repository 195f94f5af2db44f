import LineShell.Host.Utility.Parts

/-! `cut` and `paste`: parts taken out of lines, and lines put side by side. -/
namespace LineShell.Utility

/-- Positions from a first to a last one, counted from 1; without a last one they go on to the
end. -/
structure Span where
  first : Nat
  last : Option Nat

namespace Span

def has (s : Span) (n : Nat) : Bool := s.first ≤ n && s.last.all (n ≤ ·)

/-- Joins positions with later ones if they overlap. -/
def join? (s later : Span) : Option Span :=
  if s.last.all (later.first ≤ ·) then
    let last := match s.last, later.last with
      | some a, some b => some (max a b)
      | _, _ => none
    some { s with last }
  else none

def merge : List Span → List Span
  | s :: later :: rest =>
    match s.join? later with
    | some both => merge (both :: rest)
    | none => s :: merge (later :: rest)
  | spans => spans
termination_by spans => spans.length

/-- All positions from a first one on that are in none of the spans. -/
def gaps (first : Nat) : List Span → List Span
  | [] => [⟨first, none⟩]
  | s :: rest =>
    let front := if first < s.first then [⟨first, some (s.first - 1)⟩] else []
    match s.last with
    | some last => front ++ gaps (last + 1) rest
    | none => front

end Span

/-- Numbers from this one on are too large for a position. -/
def positionLimit : Nat := 18446744073709551615

/-- What positions are called in complaints. -/
structure PositionWords where
  kind : String
  value : String
  range : String
  large : String

def fieldWords : PositionWords :=
  ⟨"fields", "invalid field value ", "invalid field range", "field number "⟩

def byteWords : PositionWords :=
  ⟨"byte/character positions", "invalid byte/character position ",
    "invalid byte or character range", "byte/character offset "⟩

def endsSpan (t : Text) : Bool := t.head?.all fun c => c == ',' || c == ' ' || c == '\t'

/-- The digits of a position, and what follows them. -/
def readPosition (words : PositionWords) (t : Text) : Tool (Option Nat × Text) := do
  let digits := t.takeWhile Char.isDigit
  match Text.natural? digits with
  | none => return (none, t)
  | some n =>
    if positionLimit ≤ n then
      Tool.misuse 1 (words.large.toList ++ quotePlainly digits ++ " is too large".toList)
    return (some n, t.drop digits.length)

/-- A span such as `2`, `2-4`, `2-` or `-4`, and what follows it. -/
def readSpan (words : PositionWords) (t : Text) : Tool (Span × Text) := do
  let unnumbered : Tool (Span × Text) :=
    Tool.misuse 1 (words.kind.toList ++ " are numbered from 1".toList)
  let invalid (rest : Text) : Tool (Span × Text) :=
    Tool.misuse 1 (words.value.toList ++ quotePlainly rest)
  let (first, rest) ← readPosition words t
  if endsSpan rest then
    match first with
    | some (n + 1) => return (⟨n + 1, some (n + 1)⟩, rest)
    | _ => unnumbered
  else
    match rest with
    | '-' :: rest =>
      if first = some 0 then return ← unnumbered
      let (last, rest) ← readPosition words rest
      if endsSpan rest then
        if first.isNone ∧ last.isNone then
          Tool.misuse 1 "invalid range with no endpoint: -".toList
        if last.any (· < first.getD 1) then Tool.misuse 1 "invalid decreasing range".toList
        return (⟨first.getD 1, last⟩, rest)
      else if rest.head? = some '-' then Tool.misuse 1 words.range.toList
      else invalid rest
    | rest => invalid rest

/-- Spans with commas or blanks between them; `fuel` bounds their number. -/
def readSpans (words : PositionWords) : Nat → Text → Tool (List Span)
  | 0, _ => return []
  | fuel + 1, t => do
    match ← readSpan words t with
    | (s, []) => return [s]
    | (s, _ :: rest) => return s :: (← readSpans words fuel rest)

structure Cut where
  spans : List Span
  /-- The sign between fields; bytes are meant without one. -/
  delimiter : Option Char := none
  /-- What stands between parts that are printed. -/
  joint : Text := []
  /-- The sign that ends lines. -/
  mark : Char := '\n'
  /-- Lines without a delimiter are left out. -/
  strict : Bool := false

namespace Cut

def chosen {α : Type} (spans : List Span) (xs : List α) : List α :=
  (xs.zipIdx 1).filterMap fun (x, n) => if spans.any (·.has n) then some x else none

def apply (c : Cut) (line : Text) : Option Text :=
  match c.delimiter with
  | none =>
    let parts := c.spans.map fun s => chosen [s] line
    some (c.joint.intercalate (parts.filter (· ≠ [])))
  | some delimiter =>
    if line.contains delimiter then
      some (c.joint.intercalate (chosen c.spans (splitWhere (· == delimiter) line)))
    else if c.strict then none
    else some line

def run (c : Cut) (feed : Feed) : Tool Feed := do
  if c.delimiter = some c.mark then
    let (t, feed) ← Feed.rest Activity.readLimit [] feed
    let t := if t.getLast? = some c.mark then t.dropLast else t
    let fields := chosen c.spans (splitWhere (· == c.mark) t)
    Tool.print (c.joint.intercalate fields ++ [c.mark])
    return feed
  else
    let step (_ : Unit) (piece : Text) : Tool (ForInStep Unit) := do
      let line := if piece.getLast? = some c.mark then piece.dropLast else piece
      match c.apply line with
      | some t => Tool.print (t ++ [c.mark])
      | none => pure ()
      return .yield ()
    return (← Feed.foldPieces c.mark step Activity.readLimit () feed).2

end Cut

def cutLines : Tool Nat := do
  let g ← Known.given
    { letters := "nsz", valued := "bcfdO", named := "O"
      long := [("bytes", 'b'), ("characters", 'c'), ("fields", 'f'), ("delimiter", 'd'),
        ("only-delimited", 's'), ("output-delimiter", 'O'), ("complement", 'C'),
        ("zero-terminated", 'z')] }
  let lists := g.options.filter fun (c, _) => c == 'b' || c == 'c' || c == 'f'
  let single (t : Text) : Bool := t.length ≤ 1
  let early := g.options.takeWhile fun (c, t) => c != 'd' || single t
  if 1 < (early.filter fun (c, _) => "bcf".toList.contains c).length then
    Tool.misuse 1 "only one list may be specified".toList
  if early.length < g.options.length then
    Tool.misuse 1 "the delimiter must be a single character".toList
  match lists with
  | [] => Tool.misuse 1 "you must specify a list of bytes, characters, or fields".toList
  | _ :: _ :: _ => Tool.misuse 1 "only one list may be specified".toList
  | [(kind, list)] =>
    let isBytes := kind != 'f'
    if isBytes ∧ g.has 'd' then
      Tool.misuse 1 ("an input delimiter may be specified only when operating on fields").toList
    if isBytes ∧ g.has 's' then
      Tool.misuse 1 ("suppressing non-delimited lines makes sense\n\tonly when operating on " ++
        "fields").toList
    let read ← readSpans (if isBytes then byteWords else fieldWords) (list.length + 1) list
    let spans := Span.merge (read.mergeSort fun a b => a.first ≤ b.first)
    let delimiter := ((g.value? 'd').map (·.headD '\x00')).getD '\t'
    let c : Cut :=
      { spans := if g.has 'C' then Span.gaps 1 spans else spans
        delimiter := if isBytes then none else some delimiter
        joint := match g.value? 'O' with
          | some [] => ['\x00']
          | some t => t
          | none => if isBytes then [] else [delimiter]
        mark := if g.has 'z' then '\x00' else '\n'
        strict := g.has 's' }
    for name in inputNames g.operands do
      match ← Feed.ofName name with
      | .error cause => blameInput 1 name cause
      | .ok feed =>
        let feed ← c.run feed
        feed.close
        match feed.failure? with
        | some errno => blameInput 1 name (.os errno)
        | none => pure ()
    return 0

/-! ### Lines side by side -/

/-- The delimiters that a list with escapes stands for; nothing stands between fields for an empty
one. A list may not end in a backslash. -/
def delimiterList : Text → Option (List Text)
  | [] => some []
  | ['\\'] => none
  | '\\' :: c :: rest =>
    let sign := match c with
      | '0' => []
      | 'b' => ['\x08']
      | 'f' => ['\x0c']
      | 'n' => ['\n']
      | 'r' => ['\r']
      | 't' => ['\t']
      | 'v' => ['\x0b']
      | c => [c]
    (delimiterList rest).map (sign :: ·)
  | c :: rest => (delimiterList rest).map ([c] :: ·)

/-- Parts with delimiters between them; the delimiters are taken in turn. -/
def joinInTurn (delimiters : List Text) (parts : List Text) : Text :=
  match parts with
  | [] => []
  | first :: rest =>
    first ++ (rest.zipIdx.flatMap fun (t, n) =>
      (delimiters[n % delimiters.length]?).getD [] ++ t)

def withoutMark (mark : Char) (t : Text) : Text :=
  if t.getLast? = some mark then t.dropLast else t

/-- An input of `paste`, and what it is called. All inputs `-` are one. -/
structure Column where
  name : Text
  feed : Option Feed

/-- Takes a line from every column that has one. The standard input is handed from column to
column. -/
def takeRow (mark : Char) (input : Feed) :
    List Column → Tool (List (Option Text) × List Column × Feed)
  | [] => return ([], [], input)
  | column :: columns => do
    let isInput := column.name == ['-']
    match column.feed with
    | none =>
      let (row, columns, input) ← takeRow mark input columns
      return (none :: row, column :: columns, input)
    | some feed =>
      let (piece, feed) ← Feed.piece mark Activity.readLimit (if isInput then input else feed)
      let input := if isInput then feed else input
      if piece.isNone then
        match feed.failure? with
        | some errno => blameInput 1 column.name (.os errno)
        | none => pure ()
      let left := if piece.isSome then some feed else none
      let (row, columns, input) ← takeRow mark input columns
      return (piece.map (withoutMark mark) :: row, { column with feed := left } :: columns, input)

/-- Prints rows of lines, as long as a column has one. -/
def pasteRows (mark : Char) (delimiters : List Text) : Nat → List Column → Feed → Tool Unit
  | 0, _, _ => return ()
  | fuel + 1, columns, input => do
    let (row, columns, input) ← takeRow mark input columns
    if row.all Option.isNone then return ()
    Tool.print (joinInTurn delimiters (row.map (·.getD [])) ++ [mark])
    pasteRows mark delimiters fuel columns input

/-- Puts lines side by side, or all lines of a file behind each other. -/
def paste : Tool Nat := do
  let g ← Known.given
    { letters := "sz", valued := "d"
      long := [("serial", 's'), ("delimiters", 'd'), ("zero-terminated", 'z')] }
  let mark := if g.has 'z' then '\x00' else '\n'
  let list := (g.value? 'd').getD ['\t']
  let delimiters ← match delimiterList list with
    | some [] => pure [[]]
    | some delimiters => pure delimiters
    | none =>
      Tool.refuse 1
        ("delimiter list ends with an unescaped backslash: ".toList ++ quoteDoublyIfNeeded list)
  let names := inputNames g.operands
  if g.has 's' then
    for name in names do
      match ← Feed.ofName name with
      | .error cause => blameInput 1 name cause
      | .ok feed =>
        let (t, feed) ← Feed.rest Activity.readLimit [] feed
        feed.close
        match feed.failure? with
        | some errno => blameInput 1 name (.os errno)
        | none => pure ()
        let lines := (piecesOf mark t).map (withoutMark mark)
        Tool.print (joinInTurn delimiters lines ++ [mark])
  else
    let mut columns : List Column := []
    for name in names do
      match ← Feed.ofName name with
      | .ok feed => columns := columns ++ [⟨name, some feed⟩]
      | .error cause => Tool.refuse 1 (quoteIfNeeded name ++ ": ".toList ++ reason cause)
    pasteRows mark delimiters Activity.readLimit columns {}
  return 0

end LineShell.Utility
