import LineShell.Host.Script.Pattern

/-! Cutting what words expand to into fields. -/
namespace LineShell.Script

inductive Piece
  /-- As it was written: not cut, and matched against file names. -/
  | plain (c : Char)
  /-- Taken as it is. -/
  | fixed (c : Char)
  /-- Out of an expansion: cut, and matched against file names. -/
  | loose (c : Char)
  /-- There is a field here, even if it is empty. -/
  | presence
  /-- An expansion begins. -/
  | border
  /-- One field ends and another begins. -/
  | parting
  /-- Between arguments that are to be cut. -/
  | gap

/-- The fields so far, last first, and the one that is being written, reversed as well. -/
structure Fields where
  done : List Pattern := []
  current : Option Pattern := none
  /-- The field in front was ended by white space, so a separator may follow it. -/
  spaced : Bool := false

namespace Fields

def close (f : Fields) : Fields :=
  { done := (f.current.getD []).reverse :: f.done, current := none }

def append (f : Fields) (m : Mark) : Fields :=
  { f with current := some (m :: f.current.getD []), spaced := false }

/-- Meets a separator. White space around another separator belongs to it, and in front of a field
it means nothing. -/
def separate (f : Fields) (isSpace : Bool) : Fields :=
  if f.spaced then { f with spaced := isSpace }
  else if isSpace ∧ f.current.isNone then f
  else { f.close with spaced := isSpace }

def add (separators : Text) (f : Fields) : Piece → Fields
  | .plain c => f.append ⟨c, false⟩
  | .fixed c => f.append ⟨c, true⟩
  | .loose c =>
    if separators.contains c then f.separate (c = ' ' ∨ c = '\t' ∨ c = '\n')
    else f.append ⟨c, false⟩
  | .presence => { f with current := some (f.current.getD []), spaced := false }
  | .border => { f with spaced := false }
  | .parting => { f.close with current := some [] }
  | .gap => f.separate true

def ofPieces (separators : Text) (pieces : List Piece) : List Pattern :=
  let f := pieces.foldl (add separators) {}
  (match f.current with
    | some field => field.reverse :: f.done
    | none => f.done).reverse

end Fields

namespace Piece

def marks (pieces : List Piece) : Pattern :=
  pieces.filterMap fun
    | .plain c | .loose c => some ⟨c, false⟩
    | .fixed c => some ⟨c, true⟩
    | _ => none

def text (pieces : List Piece) : Text := (marks pieces).text

end Piece
end LineShell.Script
