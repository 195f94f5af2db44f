import LineShell.Host.Regex.Parser

/-!
The commands of a stream editor: which lines they are for, and what they do to the line at hand and
to one that is kept beside it.
-/
namespace LineShell.Editing

/-- An expression that lines are matched with. Without one the expression counts that was matched
last. -/
abbrev Expression := Option Regex

inductive Address
  | line (n : Nat)
  /-- Every so many lines, from a first one on. -/
  | every (first step : Nat)
  | last
  | matching (e : Expression)

inductive Stop
  | address (a : Address)
  /-- So many lines behind the first one. -/
  | after (count : Nat)
  /-- At the next line whose number is a multiple of this one. -/
  | multiple (n : Nat)

/-- How the letters of a replacement are written from some point on. -/
inductive Turn
  | upper
  | lower
  | asTheyAre
  | nextUpper
  | nextLower
  deriving DecidableEq

inductive Piece
  | text (t : Text)
  | group (n : Nat)
  | turn (t : Turn)

/-- Puts something else in the place of a match. -/
structure Substitution where
  expression : Expression
  replacement : List Piece
  /-- The first match that is replaced. -/
  first : Nat := 1
  /-- All matches behind the first one are replaced, too. -/
  all : Bool := false
  prints : Bool := false
  /-- The result is a command whose output takes its place. -/
  executes : Bool := false
  /-- A file that a changed line is written to. -/
  output : Option Text := none

inductive Action
  /-- Begins a block that goes as far as the command of this number. -/
  | opening (stop : Nat)
  | closing
  | mark
  | append (t : Text)
  | insert (t : Text)
  | change (t : Text)
  | delete
  | deleteLine
  | execute (command : Text)
  | fileName
  | get
  | getMore
  | hold
  | holdMore
  | exchange
  /-- Shows the line, folded at a width if there is one. -/
  | reveal (width : Option Nat)
  | lineNumber
  | next
  | nextMore
  | print
  | printLine
  | quit (status : Nat)
  | quitSilently (status : Nat)
  | readFile (name : Text)
  | readLine (name : Text)
  | write (name : Text)
  | writeLine (name : Text)
  | substitute (s : Substitution)
  | transliterate (pairs : List (Char × Char))
  | erase
  /-- Goes to a label, or to the end: always, or only if something has been replaced or nothing
  has. -/
  | jump (condition : Option Bool) (label : Text)

/-- A command, for the lines that it is for. -/
structure Command where
  start : Option Address := none
  stop : Option Stop := none
  /-- It is for all other lines. -/
  negated : Bool := false
  action : Action

structure Script where
  commands : Array Command := #[]
  /-- Where labels stand. -/
  labels : List (Text × Nat) := []

/-! ### Escapes -/

/-- Digits of a base, at most so many, as a character, and how many there are. -/
def digitsChar? (base most : Nat) (t : Text) : Option (Char × Nat) :=
  let value (c : Char) : Nat :=
    if c.isDigit then c.toNat - '0'.toNat
    else if 'a' ≤ c ∧ c ≤ 'f' then c.toNat - 'a'.toNat + 10
    else if 'A' ≤ c ∧ c ≤ 'F' then c.toNat - 'A'.toNat + 10
    else 16
  let digits := (t.take most).takeWhile fun c => value c < base
  if digits = [] then none
  else
    let n := digits.foldl (fun n c => n * base + value c) 0
    some (Char.ofNat (n % 256), digits.length)

/-- The character that is written behind a backslash as a letter, perhaps with digits, and how long
that is. -/
def escaped? : Text → Option (Char × Nat)
  | 'a' :: _ => some ('\x07', 1)
  | 'f' :: _ => some ('\x0c', 1)
  | 'n' :: _ => some ('\n', 1)
  | 'r' :: _ => some ('\r', 1)
  | 't' :: _ => some ('\t', 1)
  | 'v' :: _ => some ('\x0b', 1)
  | 'c' :: '\\' :: '\\' :: _ => some ('\x1c', 3)
  | 'c' :: c :: _ => some (Char.ofNat (c.toUpper.toNat ^^^ 0x40), 2)
  | 'd' :: rest => (digitsChar? 10 3 rest).map fun (c, n) => (c, n + 1)
  | 'o' :: rest => (digitsChar? 8 3 rest).map fun (c, n) => (c, n + 1)
  | 'x' :: rest => (digitsChar? 16 2 rest).map fun (c, n) => (c, n + 1)
  | _ => none

/-- The text of an expression with the characters for which escapes stand. -/
def expressionText : Nat → Text → Text
  | 0, t => t
  | n + 1, t =>
    match t with
    | '\\' :: rest =>
      match escaped? rest with
      | some (c, length) => c :: expressionText n (rest.drop length)
      | none =>
        match rest with
        | c :: rest => '\\' :: c :: expressionText n rest
        | [] => ['\\']
    | c :: rest => c :: expressionText n rest
    | [] => []

/-- A text that is given as it is, but for escapes; another character behind a backslash stands for
itself. -/
def plainText : Nat → Text → Text
  | 0, t => t
  | n + 1, t =>
    match t with
    | '\\' :: rest =>
      match escaped? rest with
      | some (c, length) => c :: plainText n (rest.drop length)
      | none =>
        match rest with
        | c :: rest => c :: plainText n rest
        | [] => []
    | c :: rest => c :: plainText n rest
    | [] => []

/-- The letter that changes how letters are written. -/
def turnOf? : Char → Option Turn
  | 'U' => some .upper
  | 'L' => some .lower
  | 'E' => some .asTheyAre
  | 'u' => some .nextUpper
  | 'l' => some .nextLower
  | _ => none

/-- The parts of a replacement; `plain` is the text in front, backwards. -/
def pieces : Nat → Text → Text → List Piece
  | 0, plain, _ => [.text plain.reverse]
  | n + 1, plain, t =>
    let front : List Piece := if plain = [] then [] else [.text plain.reverse]
    match t with
    | [] => front
    | '&' :: rest => front ++ .group 0 :: pieces n [] rest
    | ['\\', 'c'] => pieces n ('\\' :: plain) []
    | '\\' :: c :: rest =>
      if c.isDigit then front ++ .group (c.toNat - '0'.toNat) :: pieces n [] rest
      else
        match turnOf? c, escaped? (c :: rest) with
        | some turn, _ => front ++ .turn turn :: pieces n [] rest
        | none, some (value, length) => pieces n (value :: plain) ((c :: rest).drop length)
        | none, none => pieces n (c :: plain) rest
    | c :: rest => pieces n (c :: plain) rest

/-- The greatest group that a replacement refers to. -/
def greatestGroup (replacement : List Piece) : Nat :=
  replacement.foldl (fun n piece =>
    match piece with
    | .group m => max n m
    | _ => n) 0

end LineShell.Editing
