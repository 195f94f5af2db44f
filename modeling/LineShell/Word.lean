import LineShell.Text.Basic

/-!
Words are separated by runs of blanks. There is no quoting: every other character belongs to a word,
but a `#` that begins one begins a comment, which is the rest of the line.
-/
namespace LineShell

/-- Blanks separate words: the space and the tab, and no other white space. -/
def isBlank (c : Char) : Bool := c == ' ' || c == '\t'

namespace Text

def words (t : Text) : List Text := (splitWhere isBlank t).filter (!·.isEmpty)

/-- The first word and the byte offset at which it starts. -/
def firstWord? (t : Text) : Option (Nat × Text) :=
  match t.dropWhile isBlank with
  | [] => none
  | rest => some (byteLength (t.takeWhile isBlank), rest.takeWhile (!isBlank ·))

/-- A blank parts the words in front of it from those behind it. -/
theorem words_append_cons {c : Char} (h : isBlank c) (a b : Text) :
    words (a ++ c :: b) = words a ++ words b := by
  simp [words, splitWhere_append_cons h]

theorem mem_words {t w : Text} (h : w ∈ words t) : w ≠ [] ∧ ∀ c ∈ w, isBlank c = false := by
  obtain ⟨hm, hne⟩ := List.mem_filter.1 h
  exact ⟨by simpa using hne, not_of_mem_splitWhere hm⟩

/-! ### Comments -/

/-- Cuts at the first `#` that starts a word, given whether a word may start at once. -/
def uncommented : Bool → Text → Text
  | _, [] => []
  | wordStart, c :: rest =>
    if c = '#' ∧ wordStart then [] else c :: uncommented (isBlank c) rest

/-- The line up to its comment. Quotes do not protect a `#`. -/
def stripComment (line : Text) : Text := uncommented true line

end Text
end LineShell
