import LineShell.Failure
import LineShell.Text.Utf8

/-!
The output and error streams that commands write to. Any write may fail, and one that fails may have
taken a part of what it was given.
-/
namespace LineShell

structure Sink where
  content : Bytes := []
  /-- After so many bytes a write fails, and after so many more the next one does. -/
  failures : List Nat := []
  /-- Behind these failures, every write of at least one byte fails. -/
  refusesWrites : Bool := false
  refusesFlush : Bool := false
  deriving DecidableEq, Repr

namespace Sink

/-- Whether a write goes through. Writing nothing never fails. -/
def takes (s : Sink) (bytes : Bytes) : Bool :=
  match s.failures with
  | room :: _ => bytes.length ≤ room
  | [] => !s.refusesWrites || bytes.isEmpty

/-- The sink when bytes have been written to it. Where the write fails, it has taken those that
there was room for. -/
def after (s : Sink) (bytes : Bytes) : Sink :=
  match s.failures with
  | room :: rest =>
    { s with
      content := s.content ++ bytes.take room
      failures := if bytes.length ≤ room then (room - bytes.length) :: rest else rest }
  | [] => if s.refusesWrites then s else { s with content := s.content ++ bytes }

def write (s : Sink) (bytes : Bytes) : Except Fault Unit × Sink :=
  (if s.takes bytes then .ok () else .error (.plain "sink failed".toList), s.after bytes)

def flush (s : Sink) : Except Fault Unit :=
  if s.refusesFlush then .error (.plain "flush failed".toList) else .ok ()

def text (s : Sink) : Text := Utf8.decode s.content

@[simp] theorem takes_nil (s : Sink) : s.takes [] = true := by
  unfold takes
  split <;> simp

@[simp] theorem after_nil (s : Sink) : s.after [] = s := by
  obtain ⟨content, failures, refusesWrites, refusesFlush⟩ := s
  cases failures with
  | nil => simp [after]
  | cons room rest => simp [after]

/-- A write in two parts goes through if both do, the second behind the first. -/
theorem takes_append (s : Sink) (a b : Bytes) :
    s.takes (a ++ b) = (s.takes a && (s.after a).takes b) := by
  obtain ⟨content, failures, refusesWrites, refusesFlush⟩ := s
  cases failures with
  | nil =>
    cases refusesWrites with
    | false => rfl
    | true => cases a <;> rfl
  | cons room rest =>
    by_cases ha : a.length ≤ room
    · have hroom : a.length + b.length ≤ room ↔ b.length ≤ room - a.length := by omega
      simp [takes, after, ha, hroom]
    · have hroom : ¬ a.length + b.length ≤ room := by omega
      simp [takes, ha, hroom]

theorem after_append {s : Sink} {a : Bytes} (h : s.takes a) (b : Bytes) :
    s.after (a ++ b) = (s.after a).after b := by
  obtain ⟨content, failures, refusesWrites, refusesFlush⟩ := s
  cases failures with
  | nil => cases refusesWrites <;> simp [after]
  | cons room rest =>
    have ha : a.length ≤ room := by simpa [takes] using h
    have hroom : a.length + b.length ≤ room ↔ b.length ≤ room - a.length := by omega
    simp [after, ha, hroom, List.take_append, Nat.sub_sub]

/-- What is written behind a part that fails is not looked at. -/
theorem after_append_of_not_takes {s : Sink} {a : Bytes} (h : ¬ s.takes a) (b : Bytes) :
    s.after (a ++ b) = s.after a := by
  obtain ⟨content, failures, refusesWrites, refusesFlush⟩ := s
  cases failures with
  | nil => cases refusesWrites <;> simp_all [after, takes]
  | cons room rest =>
    have ha : ¬ a.length ≤ room := by simpa [takes] using h
    have hroom : ¬ a.length + b.length ≤ room := by omega
    have hfront : (a ++ b).take room = a.take room :=
      List.take_append_of_le_length (Nat.le_of_not_le ha)
    simp [after, ha, hroom, hfront]

/-! ### Sinks that never fail, and sinks that always do -/

structure TakesAll (s : Sink) : Prop where
  failures : s.failures = []
  accepts : s.refusesWrites = false

structure RefusesAll (s : Sink) : Prop where
  failures : s.failures = []
  refuses : s.refusesWrites = true

theorem TakesAll.takes {s : Sink} (h : s.TakesAll) (bytes : Bytes) : s.takes bytes = true := by
  unfold Sink.takes
  simp [h.failures, h.accepts]

theorem TakesAll.after_eq {s : Sink} (h : s.TakesAll) (bytes : Bytes) :
    s.after bytes = { s with content := s.content ++ bytes } := by
  unfold Sink.after
  simp [h.failures, h.accepts]

theorem TakesAll.after {s : Sink} (h : s.TakesAll) (bytes : Bytes) : (s.after bytes).TakesAll := by
  rw [h.after_eq]
  exact ⟨h.failures, h.accepts⟩

theorem RefusesAll.not_takes {s : Sink} (h : s.RefusesAll) {bytes : Bytes} (hne : bytes ≠ []) :
    s.takes bytes = false := by
  unfold Sink.takes
  simp [h.failures, h.refuses, hne]

theorem RefusesAll.after_eq {s : Sink} (h : s.RefusesAll) (bytes : Bytes) : s.after bytes = s := by
  unfold Sink.after
  simp [h.failures, h.refuses]

/-- A sink that never fails, or always does, goes on like that. -/
structure Stays (s s' : Sink) : Prop where
  takes : s.TakesAll → s'.TakesAll
  refuses : s.RefusesAll → s'.RefusesAll

theorem Stays.refl (s : Sink) : s.Stays s := ⟨id, id⟩

theorem Stays.trans {s₁ s₂ s₃ : Sink} (h₁ : s₁.Stays s₂) (h₂ : s₂.Stays s₃) : s₁.Stays s₃ where
  takes h := h₂.takes (h₁.takes h)
  refuses h := h₂.refuses (h₁.refuses h)

theorem stays_after (s : Sink) (bytes : Bytes) : s.Stays (s.after bytes) where
  takes h := h.after bytes
  refuses h := by rwa [h.after_eq]

end Sink

structure Streams where
  out : Sink := {}
  err : Sink := {}
  deriving DecidableEq, Repr

def Streams.flush (s : Streams) : Except Fault Unit :=
  match s.out.flush with
  | .error fault => .error fault
  | .ok () => s.err.flush

end LineShell
