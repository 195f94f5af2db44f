import LineShell.Builtin.Basic
import Mathlib.Tactic.Tauto

/-!
Reading arguments one by one: what becomes of a request for help, of the mark that ends the options,
of an option that there is not, and of an operand.
-/
namespace LineShell

namespace Synopsis

variable (s : Synopsis) (help : Bool) (given : Arguments) (rest : List Text)

theorem read_of_help {argument : Text} (h : asksForHelp argument) :
    s.read help false given (argument :: rest) = s.read true false given rest := by
  rw [read.eq_def]
  simp [h]

theorem read_of_mark :
    s.read help false given (['-', '-'] :: rest) = s.read help true given rest := by
  have hh : asksForHelp ['-', '-'] = false := by decide
  rw [read.eq_def]
  simp [hh]

/-- Without options, what looks like one is refused. -/
theorem read_of_dash (hs : s.switches = []) {argument : Text} (hh : asksForHelp argument = false)
    (hmark : argument ≠ ['-', '-']) (hdash : argument.head? = some '-') :
    s.read false false given (argument :: rest) = .error (.unrecognized argument) := by
  have hnone : s.switch? argument = none := by simp [switch?, hs]
  rw [read.eq_def]
  simp [hh, hmark, hdash, hnone]

/-- An argument that is an operand wherever it stands. -/
def IsOperand (argument : Text) : Prop := asksForHelp argument = false ∧ argument.head? ≠ some '-'

theorem isOperand_iff {argument : Text} :
    IsOperand argument ↔ argument.head? ≠ some '-' ∧ argument ≠ "help".toList := by
  have hlong : argument.head? ≠ some '-' → argument ≠ "--help".toList := by
    rintro hdash rfl
    exact hdash rfl
  simp only [IsOperand, asksForHelp, Bool.or_eq_false_iff, beq_eq_false_iff_ne]
  tauto

theorem read_of_rest {name : Text} (hs : s.operands = .rest name) {ended : Bool} {argument : Text}
    (h : ended = false → IsOperand argument) :
    s.read help ended given (argument :: rest) =
      s.read help true { given with operands := given.operands ++ [argument] } rest := by
  rw [read.eq_def]
  cases ended with
  | true => simp [hs]
  | false =>
    obtain ⟨hh, hdash⟩ := h rfl
    have hmark : argument ≠ ['-', '-'] := by
      rintro rfl
      exact hdash rfl
    simp [hs, hh, hdash, hmark]

/-- Where the options have ended and any number of operands is allowed, everything is an operand. -/
theorem read_ended {name : Text} (hs : s.operands = .rest name) (arguments : List Text) :
    s.read false true given arguments =
      .ok { given with operands := given.operands ++ arguments } := by
  induction arguments generalizing given with
  | nil => simp [read]
  | cons argument rest ih =>
    rw [read_of_rest s false given rest hs (by simp), ih]
    simp

end Synopsis

/-- A builtin that takes all its arguments as operands gets them as they are. -/
theorem Builtin.parse_literal {b : Builtin} (hb : b.literal) {name : Text}
    (hs : b.synopsis.operands = .rest name) (arguments : List Text) :
    b.parse arguments = .ok { operands := arguments } := by
  rw [parse, if_pos hb, Synopsis.parse, Synopsis.read_of_mark, Synopsis.read_ended _ _ hs]
  rfl

/-- One that takes at most one operand refuses the second, whatever they look like. -/
theorem Builtin.parse_optional {b : Builtin} (hb : b.literal) {name help : Text}
    (hs : b.synopsis.operands = .optional name help) (arguments : List Text) :
    b.parse arguments =
      match arguments with
      | [] => .ok {}
      | [operand] => .ok { operands := [operand] }
      | _ :: extra :: _ => .error (.unrecognized extra) := by
  have hmark : b.parse arguments = b.synopsis.read false true {} arguments := by
    rw [parse, if_pos hb, Synopsis.parse, Synopsis.read_of_mark]
  have hoperand (given : Arguments) (operand : Text) (rest : List Text) :
      b.synopsis.read false true given (operand :: rest) =
        if given.operands = [] then
          b.synopsis.read false true { given with operands := [operand] } rest
        else .error (.unrecognized operand) := by
    rw [Synopsis.read.eq_def]
    simp [hs]
  rw [hmark]
  rcases arguments with _ | ⟨operand, _ | ⟨extra, rest⟩⟩
  · rfl
  · rw [hoperand, if_pos rfl]
    rfl
  · rw [hoperand, if_pos rfl, hoperand, if_neg (List.cons_ne_nil _ _)]

end LineShell
