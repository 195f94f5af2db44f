import LineShell.Proofs.Changes
import LineShell.Proofs.HistoryFile
import Mathlib.Data.List.DropRight

/-!
The record that a run leaves: the lines that were read, counted, and the latest of those with
anything on them. Only entering a line changes it, so each command finds its own line recorded.
-/
namespace LineShell

variable {programs : Programs}

/-- What is taken off in two steps is taken off in one. -/
theorem rtake_rtake_append {α : Type} (n : Nat) (xs ys : List α) :
    (xs.rtake n ++ ys).rtake n = (xs ++ ys).rtake n := by
  have hle : n - ys.length ≤ n := Nat.sub_le _ _
  simp only [List.rtake_eq_reverse_take_reverse, List.reverse_append, List.reverse_reverse,
    List.take_append, List.take_take, List.length_reverse, Nat.min_eq_left hle]

theorem length_rtake_le {α : Type} (n : Nat) (xs : List α) : (xs.rtake n).length ≤ n := by
  rw [List.rtake, List.length_drop]
  omega

theorem rtake_of_length_le {α : Type} {n : Nat} {xs : List α} (h : xs.length ≤ n) :
    xs.rtake n = xs := by
  rw [List.rtake, Nat.sub_eq_zero_of_le h, List.drop_zero]

namespace History

/-- Adds a line without the white space around it, if anything is left of it. -/
def enter (h : History) (line : Text) : History :=
  match line.trim with
  | [] => h
  | entry => h.push entry

def entriesOf (lines : List Text) : List Text := (lines.map Text.trim).filter (!·.isEmpty)

theorem foldl_enter_eq (h : History) (lines : List Text) :
    lines.foldl enter h = (entriesOf lines).foldl push h := by
  induction lines generalizing h with
  | nil => rfl
  | cons line rest ih =>
    rw [List.foldl_cons, ih, enter, entriesOf, entriesOf, List.map_cons]
    cases line.trim <;> rfl

/-- The latest entries remain, whatever was recorded before them. -/
theorem texts_foldl_push {h : History} (hfits : h.size ≤ capacity) (texts : List Text) :
    (texts.foldl push h).entries.texts = (h.entries.texts ++ texts).rtake capacity := by
  induction texts generalizing h with
  | nil =>
    rw [← size_texts] at hfits
    rw [List.foldl_nil, List.append_nil, rtake_of_length_le hfits]
  | cons t texts ih =>
    have hfirst : (h.push t).entries.texts = (h.entries.texts ++ [t]).rtake capacity := by
      rw [texts_push, List.rtake, List.length_append, size_texts]
      rfl
    have hsize : (h.push t).size ≤ capacity := by
      rw [← size_texts, hfirst]
      exact length_rtake_le _ _
    rw [List.foldl_cons, ih hsize, hfirst, rtake_rtake_append, List.append_assoc,
      List.singleton_append]

theorem texts_foldl_enter {h : History} (hfits : h.size ≤ capacity) (lines : List Text) :
    (lines.foldl enter h).entries.texts =
      (h.entries.texts ++ entriesOf lines).rtake capacity := by
  rw [foldl_enter_eq, texts_foldl_push hfits]

end History

namespace Session

/-- What only entering a line changes. -/
def record (s : Session) : History × UInt64 := (s.history, s.lineCount)

theorem Change.record {arguments : List Text} {s s' : Session} (h : s.Change arguments s') :
    s'.record = s.record := by
  cases h <;> rfl

theorem record_of_changes {arguments : List Text} {s s' : Session} (h : s.Changes arguments s') :
    s'.record = s.record := by
  induction h with
  | refl => rfl
  | tail _ hstep ih => exact hstep.record.trans ih

end Session

namespace Shell

theorem record_run (name : Text) (arguments : List Text) (sh : Shell) :
    (sh.run (defaultFactories programs) name arguments).2.session.record = sh.session.record :=
  Session.record_of_changes (changes_run name arguments sh)

theorem record_runSegment (text : Text) (sh : Shell) :
    (sh.runSegment (defaultFactories programs) text).2.session.record = sh.session.record := by
  unfold runSegment
  split
  · rfl
  · exact record_run _ _ sh

theorem record_runSegments (segments : List Segment) (sh : Shell) :
    (runSegments (defaultFactories programs) segments sh).session.record = sh.session.record := by
  induction segments generalizing sh with
  | nil => rfl
  | cons segment rest ih =>
    unfold runSegments
    split
    · rfl
    · split
      · exact (ih _).trans (record_runSegment segment.text sh)
      · exact ih sh

theorem enter_eq (line : Text) (sh : Shell) :
    sh.enter line =
      { sh with session :=
        { sh.session with
          history := sh.session.history.enter line
          lineCount := sh.session.lineCount + 1 } } := by
  unfold enter History.enter
  cases line.trim <;> rfl

theorem record_enter (line : Text) (sh : Shell) :
    (sh.enter line).session.record = (sh.session.history.enter line, sh.session.lineCount + 1) := by
  rw [enter_eq]
  rfl

theorem record_accept (line : Text) (sh : Shell) :
    (sh.accept (defaultFactories programs) line).session.record =
      (sh.session.history.enter line, sh.session.lineCount + 1) :=
  (record_runSegments _ _).trans (record_enter line sh)

/-- The lines that a shell reads of those that it could read. -/
structure Reads (programs : Programs) (lines read : List Text) (sh : Shell) : Prop where
  initial : read <+: lines
  /-- None of them is read after a request to stop. -/
  going : ∀ front, front <+: read → front ≠ read →
    (sh.acceptAll (defaultFactories programs) front).session.exitRequest = none
  /-- A line is left only after a request to stop. -/
  stopped : read = lines ∨
    (sh.acceptAll (defaultFactories programs) read).session.exitRequest.isSome

theorem acceptAll_cons {sh : Shell} (h : sh.session.exitRequest = none) (line : Text)
    (rest : List Text) :
    sh.acceptAll (defaultFactories programs) (line :: rest) =
      (sh.accept (defaultFactories programs) line).acceptAll (defaultFactories programs) rest := by
  rw [acceptAll, h]
  rfl

theorem exists_reads (programs : Programs) (lines : List Text) (sh : Shell) :
    ∃ read, sh.Reads programs lines read ∧
      sh.acceptAll (defaultFactories programs) lines =
        sh.acceptAll (defaultFactories programs) read := by
  induction lines generalizing sh with
  | nil =>
    refine ⟨[], ⟨List.prefix_rfl, fun front hfront hne => ?_, .inl rfl⟩, rfl⟩
    exact absurd (List.prefix_nil.1 hfront) hne
  | cons line rest ih =>
    by_cases hexit : sh.session.exitRequest.isSome
    · refine ⟨[], ⟨List.nil_prefix, fun front hfront hne => ?_, .inr hexit⟩, ?_⟩
      · exact absurd (List.prefix_nil.1 hfront) hne
      · rw [acceptAll_of_exit _ hexit, acceptAll]
    rw [Option.not_isSome_iff_eq_none] at hexit
    obtain ⟨read, hreads, hsame⟩ := ih (sh.accept (defaultFactories programs) line)
    refine ⟨line :: read, ⟨?_, fun front hfront hne => ?_, ?_⟩, ?_⟩
    · exact (List.prefix_cons_inj line).2 hreads.initial
    · cases front with
      | nil => exact hexit
      | cons first front =>
        obtain ⟨rfl, hbehind⟩ := List.cons_prefix_cons.1 hfront
        rw [acceptAll_cons hexit]
        exact hreads.going front hbehind fun he => hne (he ▸ rfl)
    · rw [acceptAll_cons hexit]
      exact hreads.stopped.imp_left (congrArg (line :: ·))
    · rw [acceptAll_cons hexit, acceptAll_cons hexit, hsame]

/-- The record of lines that are all read. -/
theorem record_acceptAll {lines : List Text} {sh : Shell}
    (hgoing : ∀ front, front <+: lines → front ≠ lines →
      (sh.acceptAll (defaultFactories programs) front).session.exitRequest = none) :
    (sh.acceptAll (defaultFactories programs) lines).session.record =
      (lines.foldl History.enter sh.session.history,
        sh.session.lineCount + UInt64.ofNat lines.length) := by
  induction lines generalizing sh with
  | nil =>
    rw [acceptAll, Session.record, List.foldl_nil, List.length_nil]
    simp
  | cons line rest ih =>
    have hexit : sh.session.exitRequest = none := hgoing [] List.nil_prefix (by simp)
    have hgoing' : ∀ front, front <+: rest → front ≠ rest →
        ((sh.accept (defaultFactories programs) line).acceptAll
          (defaultFactories programs) front).session.exitRequest = none := by
      intro front hfront hne
      have hprefix := (List.prefix_cons_inj line).2 hfront
      have hnext := hgoing (line :: front) hprefix (by simpa using hne)
      rwa [acceptAll_cons hexit] at hnext
    obtain ⟨hhistory, hcount⟩ := Prod.mk.inj (record_accept line sh)
    rw [acceptAll_cons hexit, ih hgoing', hhistory, hcount, List.foldl_cons, List.length_cons,
      UInt64.ofNat_add, UInt64.add_assoc, UInt64.add_comm 1]
    rfl

/-- A run reads the lines of its stream up to the first one that asks to stop. It counts them, and
the history ends with the latest of the entries that they make; each of them is entered before it is
run, and no command changes the history. No history is longer than its capacity to begin with: none
that is loaded or entered is. -/
theorem record_repl (r : Reader) {sh : Shell} (hfits : sh.session.history.size ≤ History.capacity) :
    let texts (sh : Shell) := sh.session.history.entries.texts
    let after (lines : List Text) := sh.acceptAll (defaultFactories programs) lines
    let last := sh.repl (defaultFactories programs) r
    ∃ read, sh.Reads programs r.lines read ∧ last = after read ∧
      (sh.session.lineCount.toNat + read.length < UInt64.size →
        last.session.lineCount.toNat = sh.session.lineCount.toNat + read.length) ∧
      texts last = (texts sh ++ History.entriesOf read).rtake History.capacity ∧
      (∀ front line, front ++ [line] <+: read →
        let entered := (after front).enter line
        texts entered =
            (texts sh ++ History.entriesOf (front ++ [line])).rtake History.capacity ∧
          after (front ++ [line]) = entered.runLine (defaultFactories programs) line) ∧
      ∀ (sh' : Shell) (name : Text) (arguments : List Text),
        (sh'.run (defaultFactories programs) name arguments).2.session.history =
          sh'.session.history := by
  intro texts after last
  obtain ⟨read, hreads, hsame⟩ := sh.exists_reads programs r.lines
  have hlast : last = after read := (repl_eq_acceptAll (defaultFactories programs) r sh).trans hsame
  have hrecord {front : List Text} (hfront : front <+: read) :
      (after front).session.record = (front.foldl History.enter sh.session.history,
        sh.session.lineCount + UInt64.ofNat front.length) :=
    record_acceptAll fun start hstart hne => by
      refine hreads.going start (hstart.trans hfront) fun he => hne ?_
      exact hstart.eq_of_length_le (he ▸ hfront.length_le)
  refine ⟨read, hreads, hlast, fun hcount => ?_, ?_, fun front line hfront => ⟨?_, ?_⟩,
    fun sh' name arguments => ?_⟩
  · rw [hlast, (Prod.mk.inj (hrecord List.prefix_rfl)).2, UInt64.toNat_add, UInt64.toNat_ofNat']
    simp only [UInt64.size] at hcount
    omega
  · have hhistory := (Prod.mk.inj (hrecord List.prefix_rfl)).1
    change last.session.history.entries.texts = _
    rw [hlast, hhistory]
    exact History.texts_foldl_enter hfits read
  · have hhistory := (Prod.mk.inj (record_enter line (after front))).1
    have hbefore := (Prod.mk.inj (hrecord ((List.prefix_append front [line]).trans hfront))).1
    have htexts := History.texts_foldl_enter hfits (front ++ [line])
    change ((after front).enter line).session.history.entries.texts = _
    rw [hhistory, hbefore, ← htexts, List.foldl_concat]
  · have hexit : (after front).session.exitRequest = none := by
      refine hreads.going front ((List.prefix_append front [line]).trans hfront) ?_
      rintro rfl
      exact absurd hfront.length_le (by simp)
    change sh.acceptAll (defaultFactories programs) (front ++ [line]) = _
    rw [acceptAll_append, acceptAll_cons hexit]
    rfl
  · exact (Prod.mk.inj (record_run name arguments sh')).1

/-- A blank line and a comment are counted, and what stands behind `exit` is not read. -/
theorem record_repl_exit :
    let sh : Shell := { session := { history := .ofLines none ["ls".toList] } }
    let r : Reader := ⟨Utf8.encode "nope \n\n#\nexit 3; ls\nls\n".toList, false⟩
    let last := sh.repl (defaultFactories .echo) r
    ∃ read, sh.Reads .echo r.lines read ∧
      last.session.history.entries.texts =
        (["ls".toList] ++ History.entriesOf read).rtake History.capacity ∧
      last.session.history.numbered =
        [(0, "ls".toList), (1, "nope".toList), (2, "exit 3; ls".toList)] ∧
      last.session.lineCount = 4 := by
  intro sh r last
  have hfits : sh.session.history.size ≤ History.capacity := by decide
  obtain ⟨read, hreads, -, -, htexts, -⟩ := record_repl r hfits
  refine ⟨read, hreads, htexts, ?_⟩
  decide +kernel

end Shell
end LineShell
