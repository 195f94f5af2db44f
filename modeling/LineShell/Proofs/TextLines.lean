import LineShell.Proofs.Decoding
import LineShell.Proofs.Lines
import LineShell.Text.Utf8.Ascii

/-!
The lines of a stream are the lines of its text. Wherever a newline stands it is a character by
itself, so it makes no difference whether the bytes are cut into lines and these are decoded, or the
whole is decoded and the text is cut. Interrupts between the reads have no part in it.
-/
namespace LineShell

/-- The lines of a text, each without its newline. Behind the last newline there is a line only
where there are characters. -/
def Text.lines (t : Text) : List Text :=
  let pieces := splitWhere (· == '\n') t
  if pieces.getLast? = some [] then pieces.dropLast else pieces

namespace Utf8

theorem map_decode_splitWhere (bytes : Bytes) :
    (splitWhere (· == 0x0A) bytes).map decode = splitWhere (· == '\n') (decode bytes) := by
  have hwhole {line : Bytes} (h : ∀ b ∈ line, (b == 0x0A) = false) :
      splitWhere (· == '\n') (decode line) = [decode line] := by
    refine splitWhere_of_forall fun c hc => ?_
    have hne : c ≠ '\n' := fun he => newline_not_mem_decode h (he ▸ hc)
    simpa using hne
  induction bytes using parted_induction (· == (0x0A : UInt8)) with
  | whole line h => rw [splitWhere_of_forall h, hwhole h, List.map_singleton]
  | parted line b rest h hb ih =>
    obtain rfl := eq_of_beq hb
    rw [decode_append_newline, splitWhere_append_cons rfl, splitWhere_append_cons rfl,
      List.map_append, ih, splitWhere_of_forall h, hwhole h, List.map_singleton]

theorem decode_eq_nil_iff {bytes : Bytes} : decode bytes = [] ↔ bytes = [] :=
  ⟨fun h => Classical.not_not.1 fun hne => decode_ne_nil hne h, fun h => h ▸ rfl⟩

/-- Decoding line by line is decoding everything at once. -/
theorem map_decode_byteLines (bytes : Bytes) :
    (Reader.byteLines bytes).map decode = (decode bytes).lines := by
  have hlast : (splitWhere (· == '\n') (decode bytes)).getLast? = some [] ↔
      (splitWhere (· == 0x0A) bytes).getLast? = some [] := by
    rw [← map_decode_splitWhere, List.getLast?_map, Option.map_eq_some_iff]
    constructor
    · rintro ⟨piece, hpiece, hnil⟩
      rw [hpiece, decode_eq_nil_iff.1 hnil]
    · exact fun h => ⟨[], h, rfl⟩
  unfold Reader.byteLines Text.lines
  dsimp only
  by_cases h : (splitWhere (· == 0x0A) bytes).getLast? = some []
  · rw [if_pos h, if_pos (hlast.2 h), List.map_dropLast, map_decode_splitWhere]
  · rw [if_neg h, if_neg fun hl => h (hlast.1 hl), map_decode_splitWhere]

end Utf8

namespace Reader

/-- What is done with a reader: a line is read, or the flag for interrupts is raised or taken. -/
inductive Act
  | read
  | raise
  | take
  deriving DecidableEq

def act (r : Reader) : Act → Reader
  | .read => r.readLine.2
  | .raise => r.raise
  | .take => r.take.2

def answers : List Act → Reader → List (Option Text)
  | [], _ => []
  | .read :: acts, r => r.readLine.1 :: answers acts (r.act .read)
  | other :: acts, r => answers acts (r.act other)

theorem lines_eq_of_input {r r' : Reader} (h : r.input = r'.input) : r.lines = r'.lines := by
  rw [lines_eq, lines_eq, h]

theorem getElem?_zero_lines (r : Reader) : r.lines[0]? = r.readLine.1 := by
  cases h : r.readLine.1 with
  | none => rw [lines_of_readLine_none h, List.getElem?_nil]
  | some line => rw [lines_of_readLine_some (Prod.ext h rfl), List.getElem?_cons_zero]

theorem lines_readLine (r : Reader) : r.readLine.2.lines = r.lines.tail := by
  cases h : r.readLine.1 with
  | none =>
    have hinput : r.readLine.2.input = r.input := by
      unfold readLine
      split
      next => rfl
      next => simp [readLine] at h
    rw [lines_eq_of_input hinput, lines_of_readLine_none h, List.tail_nil]
  | some line => rw [lines_of_readLine_some (Prod.ext h rfl), List.tail_cons]

/-- The reads return the lines one after the other, and nothing from then on. -/
theorem answers_eq (acts : List Act) (r : Reader) :
    r.answers acts = (List.range (acts.count .read)).map (r.lines[·]?) := by
  induction acts generalizing r with
  | nil => rfl
  | cons first acts ih =>
    cases first with
    | read =>
      rw [answers, ih, List.count_cons_self, List.range_succ_eq_map, List.map_cons, List.map_map,
        getElem?_zero_lines]
      simp [Function.comp_def, act, lines_readLine]
    | raise =>
      have hlines : (r.act .raise).lines = r.lines := lines_eq_of_input rfl
      rw [answers, ih, hlines, List.count_cons_of_ne (by decide)]
      exact fun h => nomatch h
    | take =>
      have hlines : (r.act .take).lines = r.lines := lines_eq_of_input rfl
      rw [answers, ih, hlines, List.count_cons_of_ne (by decide)]
      exact fun h => nomatch h

theorem interrupted_readLine (r : Reader) : r.readLine.2.interrupted = false := by
  unfold readLine
  split <;> rfl

/-- A stream is read in one way as text, and the reader returns the lines of that text without their
comments. Whatever is done between the reads, they return these lines and then nothing, and the flag
for interrupts is down after each of them. -/
theorem lines_eq_textLines (r : Reader) :
    let whole := Utf8.decode r.input
    (∀ t, Utf8.Reads r.input t ↔ whole = t) ∧
      r.lines = whole.lines.map Text.stripComment ∧
      (∀ acts, r.answers acts = (List.range (acts.count .read)).map (r.lines[·]?)) ∧
      ∀ acts : List Act, ((acts ++ [Act.read]).foldl act r).interrupted = false := by
  intro whole
  refine ⟨fun t => Utf8.reads_iff, ?_, fun acts => answers_eq acts r, fun acts => ?_⟩
  · rw [lines_eq, ← Utf8.map_decode_byteLines, List.map_map]
    rfl
  · rw [List.foldl_append]
    exact interrupted_readLine _

/-- A character that is cut off by the newline, and the rest of it behind the newline. -/
example : (Reader.mk [0x61, 0xE2, 0x82, 0x0A, 0xAC, 0x23, 0x0A, 0x23] true).lines =
    ["a\uFFFD".toList, "\uFFFD#".toList, []] := by decide +kernel

end Reader
end LineShell
