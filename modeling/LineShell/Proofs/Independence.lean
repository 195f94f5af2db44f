import LineShell.Proofs.SingleLine
import LineShell.Proofs.Streams

/-!
Runs with different histories. No command but `history` looks at the lines that were entered, so
shells that differ in these alone run the same commands, and each of the others does and writes the
same in both.
-/
namespace LineShell

variable {programs : Programs}

/-- The streams when these bytes have been written to the output before everything else. -/
def Streams.behind (front : Bytes) (s : Streams) : Streams :=
  { s with out := { s.out with content := front ++ s.out.content } }

/-- Writing does not look at what has been written. -/
theorem Sink.after_behind (s : Sink) (front bytes : Bytes) :
    ({ s with content := front ++ s.content } : Sink).after bytes =
      { s.after bytes with content := front ++ (s.after bytes).content } := by
  obtain ⟨content, failures, refusesWrites, refusesFlush⟩ := s
  cases failures with
  | nil => cases refusesWrites <;> simp [after]
  | cons room rest => simp [after]

theorem Streams.unnoticed_behind (front : Bytes) : Unnoticed (behind front) where
  takes _ _ := rfl
  after s bytes := by rw [behind, behind, Sink.after_behind]
  errTakes _ _ := rfl
  errAfter _ _ := rfl
  flush _ := rfl

namespace Shell

/-! ### What commands write -/

def cleared (sh : Shell) : Shell :=
  { sh with streams := { sh.streams with out := { sh.streams.out with content := [] } } }

/-- A command adds to the output what it would write to an empty one. -/
theorem out_run (name : Text) (arguments : List Text) (sh : Shell) :
    (sh.run (defaultFactories programs) name arguments).2.streams.out.content =
      sh.streams.out.content ++
        (sh.cleared.run (defaultFactories programs) name arguments).2.streams.out.content := by
  have hsh : sh.cleared.withStreams (.behind sh.streams.out.content) = sh := by
    simp [withStreams, cleared, Streams.behind]
  have hrun : (sh.cleared.withStreams _).run (defaultFactories programs) name arguments = _ :=
    run_withStreams (Streams.unnoticed_behind sh.streams.out.content) name arguments sh.cleared
  rw [hsh] at hrun
  rw [hrun]
  rfl

/-- The name of the command that a segment runs, and the bytes that it writes to the output. -/
def told (factories : List Factory) (text : Text) (sh : Shell) : Option (Text × Bytes) :=
  (sh.session.argv text).head?.map fun name =>
    (name, (sh.runSegment factories text).2.streams.out.content.drop
      sh.streams.out.content.length)

theorem told_of_argv {text name : Text} {arguments : List Text} {sh : Shell}
    (h : sh.session.argv text = name :: arguments) :
    sh.told (defaultFactories programs) text =
      some
        (name, (sh.cleared.run (defaultFactories programs) name arguments).2.streams.out.content) := by
  unfold told runSegment
  rw [h]
  dsimp only [List.head?_cons, Option.map_some]
  rw [out_run, List.drop_left]

theorem out_runSegment (text : Text) (sh : Shell) :
    (sh.runSegment (defaultFactories programs) text).2.streams.out.content =
      sh.streams.out.content ++
        (sh.told (defaultFactories programs) text).toList.flatMap (·.2) := by
  cases hargv : sh.session.argv text with
  | nil =>
    unfold told runSegment
    rw [hargv]
    simp
  | cons name arguments =>
    rw [told_of_argv hargv, Option.toList_some, List.flatMap_singleton, ← out_run]
    unfold runSegment
    rw [hargv]

/-- What the commands write that segments run, with their names and in order. -/
def transcript (factories : List Factory) : List Segment → Shell → List (Text × Bytes)
  | [], _ => []
  | segment :: rest, sh =>
    if sh.session.exitRequest.isSome then []
    else if segment.gate.permits sh.session.lastStatus then
      (sh.told factories segment.text).toList ++
        transcript factories rest (sh.runSegment factories segment.text).2
    else transcript factories rest sh

theorem out_runSegments (segments : List Segment) (sh : Shell) :
    (runSegments (defaultFactories programs) segments sh).streams.out.content =
      sh.streams.out.content ++
        (transcript (defaultFactories programs) segments sh).flatMap (·.2) := by
  induction segments generalizing sh with
  | nil => simp [runSegments, transcript]
  | cons segment rest ih =>
    unfold runSegments transcript
    split
    · simp
    · split
      · rw [ih, out_runSegment, List.flatMap_append, List.append_assoc]
      · exact ih sh

/-- What the commands of lines write that a shell is handed. -/
def transcriptAll (factories : List Factory) : List Text → Shell → List (Text × Bytes)
  | [], _ => []
  | line :: rest, sh =>
    if sh.session.exitRequest.isSome then []
    else
      transcript factories (Segment.ofLine line) (sh.enter line) ++
        transcriptAll factories rest (sh.accept factories line)

/-- The output of a run is what its commands write. -/
theorem out_acceptAll (lines : List Text) (sh : Shell) :
    (sh.acceptAll (defaultFactories programs) lines).streams.out.content =
      sh.streams.out.content ++
        (sh.transcriptAll (defaultFactories programs) lines).flatMap (·.2) := by
  induction lines generalizing sh with
  | nil => simp [acceptAll, transcriptAll]
  | cons line rest ih =>
    have henter : (sh.enter line).streams = sh.streams := by rw [enter_eq]
    have haccept : (runSegments (defaultFactories programs) (Segment.ofLine line)
        (sh.enter line)).streams.out.content = _ := out_runSegments _ _
    unfold acceptAll transcriptAll
    split
    · simp
    · rw [ih, List.flatMap_append, ← List.append_assoc, accept, runLine, haccept, henter]

/-! ### Two histories -/

variable {same : Prop} {sh sh' : Shell}

theorem Alike.eq_recast (h : sh.Alike same sh') :
    sh' = sh.recast sh'.session.history sh'.streams.out.content := by
  cases h
  rfl

theorem Alike.enter (h : sh.Alike same sh') (line : Text) :
    (sh.enter line).Alike same (sh'.enter line) := by
  rw [enter_eq, enter_eq]
  obtain ⟨history, written, hunchanged, hopen⟩ := h
  exact .recast (history.enter line) written hunchanged hopen

theorem Alike.accept (h : sh.Alike False sh') (line : Text) :
    (sh.accept (defaultFactories programs) line).Alike False
      (sh'.accept (defaultFactories programs) line) :=
  (h.enter line).runSegments False.elim

theorem Alike.acceptAll (h : sh.Alike False sh') (lines : List Text) :
    (sh.acceptAll (defaultFactories programs) lines).Alike False
      (sh'.acceptAll (defaultFactories programs) lines) := by
  induction lines generalizing sh sh' with
  | nil => exact h
  | cons line rest ih =>
    have hexit : sh'.session.exitRequest = sh.session.exitRequest := by rw [h.session]
    unfold Shell.acceptAll
    rw [hexit]
    split
    · exact h
    · exact ih (h.accept line)

theorem Alike.reads (h : sh.Alike False sh') {lines read : List Text}
    (hreads : sh.Reads programs lines read) : sh'.Reads programs lines read := by
  have hexit (front : List Text) :
      (sh'.acceptAll (defaultFactories programs) front).session.exitRequest =
        (sh.acceptAll (defaultFactories programs) front).session.exitRequest := by
    rw [(h.acceptAll front).session]
  refine ⟨hreads.initial, fun front hfront hne => ?_, ?_⟩
  · rw [hexit]
    exact hreads.going front hfront hne
  · rw [hexit]
    exact hreads.stopped

theorem Alike.cleared (h : sh.Alike same sh') : sh.cleared.Alike True sh'.cleared := by
  obtain ⟨history, written, -, -⟩ := h
  exact .recast history [] (fun _ => rfl) (.inl trivial)

/-- Two commands of one name have written the same, unless they list the history. -/
def AgreeButHistory (told told' : Text × Bytes) : Prop :=
  told'.1 = told.1 ∧ (told.1 ≠ Builtin.history.name → told'.2 = told.2)

theorem Alike.told (h : sh.Alike same sh') (text : Text) :
    List.Forall₂ AgreeButHistory (sh.told (defaultFactories programs) text).toList
      (sh'.told (defaultFactories programs) text).toList := by
  have hargv : sh'.session.argv text = sh.session.argv text := by
    rw [h.session, Session.argv_of_history]
  cases hwords : sh.session.argv text with
  | nil =>
    have hnone : ∀ sh : Shell, sh.session.argv text = [] →
        sh.told (defaultFactories programs) text = none := by
      intro sh hnil
      rw [Shell.told, hnil]
      rfl
    rw [hnone sh hwords, hnone sh' (hargv.trans hwords)]
    exact .nil
  | cons name arguments =>
    rw [told_of_argv hwords, told_of_argv (hargv.trans hwords)]
    refine .cons ⟨rfl, fun hname => ?_⟩ .nil
    -- The outputs may differ already. Once they are cleared, the shells are alike to the last byte.
    obtain ⟨-, hleft⟩ := h.cleared.run (fun _ => hname) arguments
    exact congrArg (·.out.content) hleft.streams

theorem Alike.transcript (h : sh.Alike False sh') (segments : List Segment) :
    List.Forall₂ AgreeButHistory (transcript (defaultFactories programs) segments sh)
      (transcript (defaultFactories programs) segments sh') := by
  induction segments generalizing sh sh' with
  | nil => exact .nil
  | cons segment rest ih =>
    have hexit : sh'.session.exitRequest = sh.session.exitRequest := by rw [h.session]
    have hlast : sh'.session.lastStatus = sh.session.lastStatus := by rw [h.session]
    unfold Shell.transcript
    rw [hexit, hlast]
    split
    · exact .nil
    · split
      · exact List.rel_append (h.told segment.text) (ih (h.runSegment False.elim))
      · exact ih h

theorem Alike.transcriptAll (h : sh.Alike False sh') (lines : List Text) :
    List.Forall₂ AgreeButHistory (sh.transcriptAll (defaultFactories programs) lines)
      (sh'.transcriptAll (defaultFactories programs) lines) := by
  induction lines generalizing sh sh' with
  | nil => exact .nil
  | cons line rest ih =>
    have hexit : sh'.session.exitRequest = sh.session.exitRequest := by rw [h.session]
    unfold Shell.transcriptAll
    rw [hexit]
    split
    · exact .nil
    · exact List.rel_append ((h.enter line).transcript _) (ih (h.accept line))

/-- Runs of the same lines that begin with different histories read as many of them, end in the same
way and leave shells that differ only in the history and in the output. The outputs are what the
same commands write, and they differ only where `history` does. -/
theorem repl_of_history {sh : Shell} (haccepts : sh.streams.out.TakesAll)
    (history : History) (r : Reader) :
    let sh' : Shell := { sh with session.history := history }
    let last := sh.repl (defaultFactories programs) r
    let last' := sh'.repl (defaultFactories programs) r
    let told := sh.transcriptAll (defaultFactories programs) r.lines
    let told' := sh'.transcriptAll (defaultFactories programs) r.lines
    (∃ read, sh.Reads programs r.lines read ∧ sh'.Reads programs r.lines read) ∧
      last' =
        { last with
          session.history := last'.session.history
          streams.out.content := last'.streams.out.content } ∧
      last'.finish.1 = last.finish.1 ∧
      last.streams.out.content = sh.streams.out.content ++ told.flatMap (·.2) ∧
      last'.streams.out.content = sh.streams.out.content ++ told'.flatMap (·.2) ∧
      List.Forall₂ AgreeButHistory told told' := by
  intro sh' last last' told told'
  have halike : sh.Alike False sh' :=
    .recast history sh.streams.out.content (fun _ => rfl) (.inr haccepts)
  have hlast : last = sh.acceptAll (defaultFactories programs) r.lines :=
    repl_eq_acceptAll (defaultFactories programs) r sh
  have hlast' : last' = sh'.acceptAll (defaultFactories programs) r.lines :=
    repl_eq_acceptAll (defaultFactories programs) r sh'
  have hleft : last.Alike False last' := by
    rw [hlast, hlast']
    exact halike.acceptAll r.lines
  obtain ⟨read, hreads, -⟩ := exists_reads programs r.lines sh
  refine ⟨⟨read, hreads, halike.reads hreads⟩, ?_, ?_, ?_, ?_, halike.transcriptAll r.lines⟩
  · exact hleft.eq_recast
  · rw [finish_fst, finish_fst, hleft.session]
  · rw [hlast]
    exact out_acceptAll r.lines sh
  · rw [hlast']
    exact out_acceptAll r.lines sh'

/-- A history with an entry and one without. -/
theorem repl_of_history_listed :
    let sh : Shell := { session := { history := .ofLines none ["old".toList] }, host := echoing }
    let sh' : Shell := { sh with session.history := {} }
    let r : Reader := ⟨Utf8.encode "history; /echo a\nexit 3\nls\n".toList, false⟩
    let last := sh.repl (defaultFactories .echo) r
    let last' := sh'.repl (defaultFactories .echo) r
    (last'.streams.err = last.streams.err ∧ last'.finish.1 = last.finish.1) ∧
      last.finish.1 = 3 ∧
      last.streams.out.text = "0: old\n1: history; /echo a\na\n".toList ∧
      last'.streams.out.text = "0: history; /echo a\na\n".toList := by
  have hends :
      let sh : Shell := { session := { history := .ofLines none ["old".toList] }, host := echoing }
      let sh' : Shell := { sh with session.history := {} }
      let r : Reader := ⟨Utf8.encode "history; /echo a\nexit 3\nls\n".toList, false⟩
      let last := sh.repl (defaultFactories .echo) r
      let last' := sh'.repl (defaultFactories .echo) r
      last.finish.1 = 3 ∧ last.streams.out.text = "0: old\n1: history; /echo a\na\n".toList ∧
        last'.streams.out.text = "0: history; /echo a\na\n".toList := by
    decide +kernel
  intro sh sh' r last last'
  have haccepts : sh.streams.out.TakesAll := ⟨rfl, rfl⟩
  obtain ⟨-, hlast, hfinish, -⟩ := @repl_of_history .echo sh haccepts {} r
  exact ⟨⟨congrArg (·.streams.err) hlast, hfinish⟩, hends⟩

end Shell
end LineShell
