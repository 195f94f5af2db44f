import LineShell.Interpreter
import Mathlib.Data.List.TakeWhile

/-!
The lines of a stream, and running them. Reading one line after the other gives the pieces between
the newlines, and a shell that reads them is a shell that is handed them.
-/
namespace LineShell

namespace Reader

/-- The lines of a stream, each without its newline. Behind the last newline there is a line only
where there are bytes. -/
def byteLines (bytes : Bytes) : List Bytes :=
  let pieces := splitWhere (· == 0x0A) bytes
  if pieces.getLast? = some [] then pieces.dropLast else pieces

theorem byteLines_append_newline (a b : Bytes) :
    byteLines (a ++ 0x0A :: b) = splitWhere (· == 0x0A) a ++ byteLines b := by
  have hb := splitWhere_ne_nil (· == 0x0A) b
  have hlast : (splitWhere (· == 0x0A) a ++ splitWhere (· == 0x0A) b).getLast? =
      (splitWhere (· == 0x0A) b).getLast? := by
    rw [List.getLast?_append, List.getLast?_eq_some_getLast hb, Option.some_or]
  unfold byteLines
  rw [splitWhere_append_cons rfl]
  dsimp only
  rw [hlast, List.dropLast_append_of_ne_nil hb]
  split <;> rfl

theorem byteLines_of_no_newline {bytes : Bytes} (hne : bytes ≠ [])
    (h : ∀ b ∈ bytes, (b == 0x0A) = false) : byteLines bytes = [bytes] := by
  unfold byteLines
  rw [splitWhere_of_forall h]
  simp [hne]

/-- A cut behind a newline goes through no line. -/
theorem byteLines_append {a : Bytes} (ha : a = [] ∨ a.getLast? = some 0x0A) (b : Bytes) :
    byteLines (a ++ b) = byteLines a ++ byteLines b := by
  rcases ha with rfl | ha
  · rfl
  · obtain ⟨a, rfl⟩ := List.getLast?_eq_some_iff.1 ha
    rw [List.append_assoc, List.singleton_append, byteLines_append_newline,
      byteLines_append_newline]
    simp [byteLines]

def textOf (line : Bytes) : Text := Text.stripComment (Utf8.decode line)

theorem readLine_of_no_newline {line : Bytes} (hne : line ≠ [])
    (h : ∀ b ∈ line, (b == 0x0A) = false) (raised : Bool) :
    (Reader.mk line raised).readLine = (some (textOf line), ⟨[], false⟩) := by
  have hp : ∀ b ∈ line, (b != 0x0A) = true := by simpa using h
  have ht : line.takeWhile (· != 0x0A) = line := List.takeWhile_eq_self_iff.2 hp
  have hd : line.dropWhile (· != 0x0A) = [] := List.dropWhile_eq_nil_iff.2 hp
  unfold readLine
  split
  next he => exact absurd he hne
  next => simp only [lineText, textOf, ht, hd, List.tail_nil]

theorem readLine_of_newline {line : Bytes} (h : ∀ b ∈ line, (b == 0x0A) = false) (rest : Bytes)
    (raised : Bool) :
    (Reader.mk (line ++ 0x0A :: rest) raised).readLine = (some (textOf line), ⟨rest, false⟩) := by
  have hp : ∀ b ∈ line, (b != 0x0A) = true := by simpa using h
  unfold readLine
  split
  next he => simp at he
  next =>
    simp [lineText, textOf, List.takeWhile_append_of_pos hp, List.dropWhile_append_of_pos hp]

theorem lines_of_readLine_none {r : Reader} (h : r.readLine.1 = none) : r.lines = [] := by
  rw [lines]
  split
  · rfl
  next hr => simp [hr] at h

theorem lines_of_readLine_some {r r' : Reader} {line : Text} (h : r.readLine = (some line, r')) :
    r.lines = line :: r'.lines := by
  rw [lines]
  split
  next hr => simp [hr] at h
  next hr =>
    rw [h] at hr
    obtain ⟨rfl, rfl⟩ := by simpa using hr
    rfl

/-- Every line is read, in order, and nothing else; interrupts change none. -/
theorem lines_eq (r : Reader) : r.lines = (byteLines r.input).map textOf := by
  obtain ⟨input, raised⟩ := r
  induction input using parted_induction (· == (0x0A : UInt8)) generalizing raised with
  | whole line h =>
    by_cases hne : line = []
    · subst hne
      exact lines_of_readLine_none rfl
    · rw [lines_of_readLine_some (readLine_of_no_newline hne h raised),
        lines_of_readLine_none rfl, byteLines_of_no_newline hne h]
      rfl
  | parted line b rest h hb ih =>
    obtain rfl := eq_of_beq hb
    rw [lines_of_readLine_some (readLine_of_newline h rest raised), ih,
      byteLines_append_newline, splitWhere_of_forall h]
    rfl

end Reader

namespace Shell

/-- Enters and runs lines until one asks to stop. -/
def acceptAll (factories : List Factory) : List Text → Shell → Shell
  | [], sh => sh
  | line :: rest, sh =>
    if sh.session.exitRequest.isSome then sh
    else acceptAll factories rest (sh.accept factories line)

variable (factories : List Factory)

theorem acceptAll_of_exit {sh : Shell} (h : sh.session.exitRequest.isSome) (lines : List Text) :
    acceptAll factories lines sh = sh := by
  cases lines with
  | nil => rfl
  | cons line rest => rw [acceptAll, if_pos h]

theorem acceptAll_append (xs ys : List Text) (sh : Shell) :
    acceptAll factories (xs ++ ys) sh = acceptAll factories ys (acceptAll factories xs sh) := by
  induction xs generalizing sh with
  | nil => rfl
  | cons line xs ih =>
    rw [List.cons_append, acceptAll, acceptAll]
    split
    next h => rw [acceptAll_of_exit factories h]
    next => exact ih _

/-- A shell that reads a stream is a shell that is handed its lines. -/
theorem repl_eq_acceptAll (r : Reader) (sh : Shell) :
    sh.repl factories r = acceptAll factories r.lines sh := by
  fun_induction sh.repl factories r with
  | case1 r sh h => rw [acceptAll_of_exit factories h]
  | case2 r sh h r' hr => rw [Reader.lines_of_readLine_none (by rw [hr])]; rfl
  | case3 r sh h line r' hr hlt ih =>
    rw [Reader.lines_of_readLine_some hr, acceptAll, if_neg h, ih]

/-- A stream may be cut behind any newline and its parts run one after the other. After a request
to stop the second part does nothing. -/
theorem repl_append {p : Bytes} (hp : p = [] ∨ p.getLast? = some 0x0A) (q : Bytes) (i j k : Bool)
    (sh : Shell) :
    sh.repl factories ⟨p ++ q, i⟩ = (sh.repl factories ⟨p, j⟩).repl factories ⟨q, k⟩ ∧
      ((sh.repl factories ⟨p, j⟩).session.exitRequest.isSome →
        sh.repl factories ⟨p ++ q, i⟩ = sh.repl factories ⟨p, j⟩) := by
  have happend : sh.repl factories ⟨p ++ q, i⟩ =
      acceptAll factories (Reader.lines ⟨q, k⟩) (sh.repl factories ⟨p, j⟩) := by
    simp only [repl_eq_acceptAll, Reader.lines_eq, Reader.byteLines_append hp, List.map_append,
      acceptAll_append]
  refine ⟨?_, fun hexit => ?_⟩
  · rw [happend, ← repl_eq_acceptAll]
  · rw [happend, acceptAll_of_exit factories hexit]

/-- Half a character in a comment in front of the cut, and the other half behind it. -/
theorem repl_exit_before_rest :
    (({} : Shell).repl (defaultFactories .echo)
        ⟨[0x65, 0x78, 0x69, 0x74, 0x20, 0x23, 0xC3, 0x0A], false⟩).session.exitRequest = some 0 ∧
      ({} : Shell).repl (defaultFactories .echo)
          ⟨[0x65, 0x78, 0x69, 0x74, 0x20, 0x23, 0xC3, 0x0A] ++ [0xA9, 0x3B, 0x73, 0x65, 0x74],
            false⟩ =
        ({} : Shell).repl (defaultFactories .echo)
          ⟨[0x65, 0x78, 0x69, 0x74, 0x20, 0x23, 0xC3, 0x0A], false⟩ := by
  have hexit : (({} : Shell).repl (defaultFactories .echo)
      ⟨[0x65, 0x78, 0x69, 0x74, 0x20, 0x23, 0xC3, 0x0A], false⟩).session.exitRequest = some 0 := by
    decide +kernel
  obtain ⟨-, hstop⟩ := repl_append (defaultFactories .echo)
    (p := [0x65, 0x78, 0x69, 0x74, 0x20, 0x23, 0xC3, 0x0A]) (.inr rfl)
    [0xA9, 0x3B, 0x73, 0x65, 0x74] false false false {}
  exact ⟨hexit, hstop (by rw [hexit]; rfl)⟩

end Shell
end LineShell
