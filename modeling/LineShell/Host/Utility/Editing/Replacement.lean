import LineShell.Host.Utility.Editing.Commands

/-! What a substitution makes of a line. -/
namespace LineShell.Editing

/-- How letters are written: all of them, and only the next one. -/
structure Casing where
  all : Turn := .asTheyAre
  next : Turn := .asTheyAre

namespace Casing

def turn (c : Casing) : Turn → Casing
  | .nextUpper => { c with next := .upper }
  | .nextLower => { c with next := .lower }
  | t => { all := t }

def write (t : Turn) (c : Char) : Char :=
  match t with
  | .upper => c.toUpper
  | .lower => c.toLower
  | _ => c

/-- Writes a text as asked for, and says how it goes on. -/
def apply (c : Casing) : Text → Text × Casing
  | [] => ([], c)
  | first :: rest =>
    let first := if c.next = .asTheyAre then write c.all first else write c.next first
    (first :: rest.map (write c.all), { all := c.all })

end Casing

def replacementFor (replacement : List Piece) (m : Regex.Match) : Text :=
  (replacement.foldl
    (fun (found, casing) piece =>
      let add (t : Text) : List Text × Casing :=
        let (t, casing) := casing.apply t
        (t :: found, casing)
      match piece with
      | .text t => add t
      | .group n => add (m.group n)
      | .turn t => (found, casing.turn t))
    (([] : List Text), ({} : Casing))).1.reverse.flatten

namespace Substitution

/-- Replaces the matches from a place on. `count` of them have been left as they were, `found` is
the text in front, the last part first, and `before` is where the last match ended. An empty match
right behind another one is none. -/
def replaceFrom (s : Substitution) (e : Regex) : Nat → Nat → Regex.Place → Option Nat → List Text → Bool →
    Option Text
  | 0, _, p, _, found, changed => if changed then some ((p.rest :: found).reverse.flatten) else none
  | n + 1, count, p, before, found, changed =>
    match e.find? p with
    | none => if changed then some ((p.rest :: found).reverse.flatten) else none
    | some m =>
      let found := p.upTo m.start :: found
      let isEmpty := m.start.index == m.stop.index
      let adjacent := isEmpty && before == some m.start.index
      let replaces := !adjacent && s.first ≤ count + 1
      let found :=
        if adjacent then found
        else if replaces then replacementFor s.replacement m :: found
        else m.text :: found
      let changed := changed || replaces
      if replaces ∧ !s.all then some ((m.stop.rest :: found).reverse.flatten)
      else
        let count := if adjacent then count else count + 1
        if !isEmpty then s.replaceFrom e n count m.stop (some m.stop.index) found changed
        else
          match m.stop.rest with
          | [] => if changed then some found.reverse.flatten else none
          | c :: _ =>
            s.replaceFrom e n count (m.stop.skip 1) (some m.stop.index) ([c] :: found) changed

/-- What becomes of a line, if anything is replaced. -/
def result? (s : Substitution) (e : Regex) (t : Text) : Option Text :=
  s.replaceFrom e (t.length + 2) 0 { rest := t } none [] false

end Substitution

/-- The signs for a character in a line that is shown. -/
def revealed (c : Char) : Text :=
  match c with
  | '\\' => "\\\\".toList
  | '\x07' => "\\a".toList
  | '\x08' => "\\b".toList
  | '\x0c' => "\\f".toList
  | '\n' => "\\n".toList
  | '\r' => "\\r".toList
  | '\t' => "\\t".toList
  | '\x0b' => "\\v".toList
  | c =>
    if ' ' ≤ c ∧ c ≤ '~' then [c] else '\\' :: (Nat.toDigits 8 c.toNat).leftpad 3 '0'

/-- Puts signs one behind the other; a line is folded before it is longer than a width, which is
none if it is 0. -/
def folded (width : Nat) : Nat → List Text → Text
  | _, [] => ['$']
  | column, t :: rest =>
    if 0 < width ∧ width - 1 < column + t.length then
      "\\\n".toList ++ t ++ folded width t.length rest
    else t ++ folded width (column + t.length) rest

end LineShell.Editing
