import LineShell.Session
import LineShell.Word

/-!
From the text of a segment to the words of a command. The first word is replaced by its alias, then
references to variables are replaced by their values, then the text is cut into words. Neither an
alias nor a value is looked at again in the same pass.
-/
namespace LineShell

/-- Puts the value of an alias in the place of the first word. -/
def Bindings.expandAlias (aliases : Bindings) (t : Text) : Text :=
  match t.firstWord? with
  | none => t
  | some (_, word) =>
    match aliases.get? word with
    | none => t
    | some value =>
      t.takeWhile isBlank ++ value ++ (t.dropWhile isBlank).dropWhile (!isBlank ·)

/-- The characters of the names behind a `$`: ASCII letters, digits and the underscore. -/
def isNameChar (c : Char) : Bool := c.isAlphanum || c == '_'

namespace Session

/-- What a `$` in front of the text stands for, and the text behind the reference: `$?` for the last
status, `$$` for the process id, `$NAME` for a variable. Any other `$` stands for itself. -/
def reference (s : Session) : Text → Text × Text
  | '?' :: rest => (s.lastStatus.text, rest)
  | '$' :: rest => (Text.decimal s.processId, rest)
  | rest =>
    match rest.takeWhile isNameChar with
    | [] => (['$'], rest)
    | name => ((s.env.get? name).getD [], rest.dropWhile isNameChar)

theorem reference_length (s : Session) (t : Text) : (s.reference t).2.length ≤ t.length := by
  unfold reference
  split
  · simp
  · simp
  · split
    · simp
    · exact (List.dropWhile_sublist _).length_le

theorem reference_lt (s : Session) {t rest : Text} {c : Char}
    (h : t.dropWhile (· != '$') = c :: rest) : (s.reference rest).2.length < t.length := by
  have hr := s.reference_length rest
  have ht := (List.dropWhile_sublist (l := t) (· != '$')).length_le
  rw [h, List.length_cons] at ht
  omega

def expandVars (s : Session) (t : Text) : Text :=
  match h : t.dropWhile (· != '$') with
  | [] => t
  | _ :: rest =>
    have := s.reference_lt h
    t.takeWhile (· != '$') ++ (s.reference rest).1 ++ s.expandVars (s.reference rest).2
termination_by t.length

def argv (s : Session) (segment : Text) : List Text :=
  (s.expandVars (s.aliases.expandAlias segment)).words

end Session
end LineShell
