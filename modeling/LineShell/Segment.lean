import LineShell.Status

/-!
A line is a sequence of segments with `&&`, `||` or `;` between them. The cut is purely textual and
goes from left to right; a lone `&` or `|` is text.
-/
namespace LineShell

inductive Gate
  | first
  | and
  | or
  | semicolon
  deriving DecidableEq, Repr

/-- Whether a segment behind the gate runs after a command that ended with `last`. -/
def Gate.permits (g : Gate) (last : Status) : Bool :=
  match g with
  | .first | .semicolon => true
  | .and => last == 0
  | .or => last != 0

def Gate.spelling : Gate → Text
  | .first => []
  | .and => ['&', '&']
  | .or => ['|', '|']
  | .semicolon => [';']

/-- One command with the gate in front of it. -/
structure Segment where
  gate : Gate
  text : Text
  deriving DecidableEq, Repr

namespace Segment

/-- The segments of `gate` followed by the reversed text `read` and the rest of the line. -/
def scan (gate : Gate) (read : Text) : Text → List Segment
  | '|' :: '|' :: rest => ⟨gate, read.reverse⟩ :: scan .or [] rest
  | '&' :: '&' :: rest => ⟨gate, read.reverse⟩ :: scan .and [] rest
  | ';' :: rest => ⟨gate, read.reverse⟩ :: scan .semicolon [] rest
  | c :: rest => scan gate (c :: read) rest
  | [] => [⟨gate, read.reverse⟩]

/-- Cuts a line into its segments, empty ones included. -/
def ofLine (line : Text) : List Segment := scan .first [] line

def render (segments : List Segment) : Text := segments.flatMap fun s => s.gate.spelling ++ s.text

theorem render_scan (gate : Gate) (read line : Text) :
    render (scan gate read line) = gate.spelling ++ read.reverse ++ line := by
  fun_induction scan gate read line <;> simp_all [render, Gate.spelling]

/-- The cut loses nothing of a line. -/
theorem render_ofLine (line : Text) : render (ofLine line) = line := by
  simp [ofLine, render_scan, Gate.spelling]

end Segment
end LineShell
