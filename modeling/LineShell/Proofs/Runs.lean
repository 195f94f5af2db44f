import LineShell.Interpreter
import LineShell.Proofs.Segments

/-!
Running segments one after the other. Only those that stand for a command do anything, and after a
request to stop none does.
-/
namespace LineShell.Shell

/-- Running these texts one after the other leads from one shell to another. Each of them stands for
a command, and none is run after a request to stop. -/
inductive Runs (factories : List Factory) : List Text → Shell → Shell → Prop
  | done (sh : Shell) : Runs factories [] sh sh
  | next {text : Text} {texts : List Text} {sh sh₁ sh₂ : Shell} {status : Status}
      (going : sh.session.exitRequest = none)
      (ran : sh.runSegment factories text = (some status, sh₁))
      (rest : Runs factories texts sh₁ sh₂) : Runs factories (text :: texts) sh sh₂

variable (factories : List Factory)

/-- A segment without words changes nothing. -/
theorem runSegment_of_none {text : Text} {sh : Shell}
    (h : (sh.runSegment factories text).1 = none) : (sh.runSegment factories text).2 = sh := by
  unfold runSegment at h ⊢
  split at h
  · rfl
  · simp at h

theorem runSegments_of_exit {sh : Shell} (h : sh.session.exitRequest.isSome)
    (segments : List Segment) : runSegments factories segments sh = sh := by
  cases segments with
  | nil => rfl
  | cons s rest => rw [runSegments, if_pos h]

theorem runSegments_append (xs ys : List Segment) (sh : Shell) :
    runSegments factories (xs ++ ys) sh =
      runSegments factories ys (runSegments factories xs sh) := by
  induction xs generalizing sh with
  | nil => rfl
  | cons s xs ih =>
    rw [List.cons_append, runSegments, runSegments]
    split
    next h => rw [runSegments_of_exit factories h]
    next =>
      split
      · exact ih _
      · exact ih sh

/-- Behind a semicolon a line runs as it would by itself. -/
theorem runSegments_scan_semicolon (line : Text) (sh : Shell) :
    runSegments factories (Segment.scan .semicolon [] line) sh = sh.runLine factories line := by
  obtain ⟨text, rest, h⟩ := Segment.scan_eq_cons [] line
  rw [runLine, Segment.ofLine, h, h]
  rfl

theorem runLine_append_semicolon (a b : Text) (sh : Shell) :
    sh.runLine factories (a ++ ';' :: b) = (sh.runLine factories a).runLine factories b := by
  rw [runLine, Segment.ofLine, Segment.scan_append_semicolon, runSegments_append,
    runSegments_scan_semicolon]
  rfl

theorem runLine_nil (sh : Shell) : sh.runLine factories [] = sh := by
  have hargv : sh.session.argv [] = [] := by
    have halias : sh.session.aliases.expandAlias [] = [] := rfl
    have hvars : sh.session.expandVars [] = [] := by simp [Session.expandVars]
    rw [Session.argv, halias, hvars]
    rfl
  have hsegment : (sh.runSegment factories []).2 = sh := by rw [runSegment, hargv]
  rw [runLine, show Segment.ofLine [] = [⟨.first, []⟩] from rfl, runSegments]
  split
  · rfl
  · change runSegments factories [] (sh.runSegment factories []).2 = sh
    rw [hsegment, runSegments]

/-- What runs is a part of the segments, in their order, each at most once. -/
theorem exists_runs (segments : List Segment) (sh : Shell) :
    ∃ texts : List Text, texts.Sublist (segments.map (·.text)) ∧
      Runs factories texts sh (runSegments factories segments sh) := by
  induction segments generalizing sh with
  | nil => exact ⟨[], .slnil, .done sh⟩
  | cons s rest ih =>
    rw [runSegments, List.map_cons]
    split
    next => exact ⟨[], List.nil_sublist _, .done sh⟩
    next hgoing =>
      split
      next =>
        obtain ⟨texts, hsub, hruns⟩ := ih (sh.runSegment factories s.text).2
        cases hran : (sh.runSegment factories s.text).1 with
        | none =>
          rw [runSegment_of_none factories hran] at hruns ⊢
          exact ⟨texts, hsub.cons _, hruns⟩
        | some status =>
          have hnext : Runs factories (s.text :: texts) sh _ :=
            .next (by simpa using hgoing) (Prod.ext hran rfl) hruns
          exact ⟨s.text :: texts, hsub.cons_cons _, hnext⟩
      next =>
        obtain ⟨texts, hsub, hruns⟩ := ih sh
        exact ⟨texts, hsub.cons _, hruns⟩

/-- A semicolon is sequencing. No operator is found across it, the gate behind it is as open as the
one in front of a line, and after a request to stop nothing behind it is run. -/
theorem runLine_semicolon (a b : Text) (sh : Shell) :
    Segment.ofLine (a ++ ';' :: b) =
        Segment.ofLine a ++ (Segment.ofLine b).modifyHead ({ · with gate := .semicolon }) ∧
      sh.runLine factories (a ++ ';' :: b) = (sh.runLine factories a).runLine factories b ∧
      ((sh.runLine factories a).session.exitRequest.isSome →
        sh.runLine factories (a ++ ';' :: b) = sh.runLine factories a) ∧
      sh.runLine factories (';' :: b) = sh.runLine factories b ∧
      sh.runLine factories (a ++ [';']) = sh.runLine factories a := by
  have hrun (a b : Text) := runLine_append_semicolon factories a b sh
  refine ⟨Segment.ofLine_append_semicolon a b, hrun a b, fun hexit => ?_, ?_, ?_⟩
  · rw [hrun, runLine, runSegments_of_exit factories hexit]
  · rw [← List.nil_append (';' :: b), hrun, runLine_nil]
  · rw [hrun, runLine_nil]

/-- The bars at the joint are text, and what stands behind a request to stop is not run. -/
theorem runLine_semicolon_exit :
    let sh : Shell := {}
    let last := sh.runLine (defaultFactories .echo) "exit 7|| x|".toList
    Segment.ofLine "exit 7|| x|;|exit 8".toList =
        [⟨.first, "exit 7".toList⟩, ⟨.or, " x|".toList⟩, ⟨.semicolon, "|exit 8".toList⟩] ∧
      last.session.exitRequest = some 7 ∧
      sh.runLine (defaultFactories .echo) "exit 7|| x|;|exit 8".toList = last := by
  intro sh last
  obtain ⟨-, -, hstop, -⟩ :=
    runLine_semicolon (defaultFactories .echo) "exit 7|| x|".toList "|exit 8".toList sh
  have hexit : last.session.exitRequest = some 7 := by decide +kernel
  exact ⟨by decide, hexit, hstop (Option.isSome_of_eq_some hexit)⟩

end LineShell.Shell
