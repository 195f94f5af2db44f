import LineShell.Proofs.Rejections

/-!
Commands on other streams. What a command does on streams that have been changed is what it does on
those as they were, as long as writing to them is.
-/
namespace LineShell

variable {programs : Programs}

def Shell.withStreams (f : Streams → Streams) (sh : Shell) : Shell :=
  { sh with streams := f sh.streams }

/-- A command that ends in the same way on streams that are changed, and leaves behind what it
leaves otherwise, with the streams changed. -/
def Command.Commutes (f : Streams → Streams) (command : Command) : Prop :=
  ∀ sh : Shell, command (sh.withStreams f) = ((command sh).1, (command sh).2.withStreams f)

/-- A change of streams that the output does not take notice of: it takes what it took, and what is
written to it is there as well after the change. -/
structure Streams.SparesOut (f : Streams → Streams) : Prop where
  takes : ∀ (s : Streams) (bytes : Bytes), (f s).out.takes bytes = s.out.takes bytes
  after : ∀ (s : Streams) (bytes : Bytes),
    f { s with out := s.out.after bytes } = { f s with out := (f s).out.after bytes }

/-- A change of streams that neither writing nor flushing takes notice of. -/
structure Streams.Unnoticed (f : Streams → Streams) : Prop extends SparesOut f where
  errTakes : ∀ (s : Streams) (bytes : Bytes), (f s).err.takes bytes = s.err.takes bytes
  errAfter : ∀ (s : Streams) (bytes : Bytes),
    f { s with err := s.err.after bytes } = { f s with err := (f s).err.after bytes }
  flush : ∀ s : Streams, (f s).flush = s.flush

variable {f : Streams → Streams}

/-! ### Commands that do not write to the error stream -/

section Output

variable (h : Streams.SparesOut f)

include h in
theorem Shell.commutes_putOut (bytes : Bytes) (status : Status) :
    Command.Commutes f (putOut bytes status) := by
  intro sh
  rw [putOut_eq_ite, putOut_eq_ite, show (sh.withStreams f).streams = f sh.streams from rfl,
    h.takes, withStreams, withStreams, h.after]

include h in
theorem Shell.commutes_printLines (lines : List Text) : Command.Commutes f (printLines lines) := by
  intro sh
  rw [printLines_eq, printLines_eq]
  exact commutes_putOut h _ 0 sh

namespace Builtin

theorem commutes_runExit (operands : List Text) : Command.Commutes f (runExit operands) := by
  intro sh
  unfold runExit
  cases operands with
  | nil => rfl
  | cons t _ =>
    dsimp only
    cases status? t <;> rfl

theorem commutes_moveTo (target : Text) {andThen : Command} (h : Command.Commutes f andThen) :
    Command.Commutes f (moveTo target andThen) := by
  intro sh
  have hthere : (sh.withStreams f).canonical? target = sh.canonical? target := rfl
  unfold moveTo
  rw [hthere]
  cases sh.canonical? target with
  | none => rfl
  | some there => exact h { sh with session := sh.session.moveTo there }

theorem commutes_runSetenv (operands : List Text) : Command.Commutes f (runSetenv operands) := by
  intro sh
  unfold runSetenv
  split
  · split
    · rfl
    · rfl
  · rfl

theorem commutes_runUnsetenv (names : List Text) : Command.Commutes f (runUnsetenv names) := by
  intro sh
  cases names <;> rfl

include h

theorem commutes_runCd (operands : List Text) : Command.Commutes f (runCd operands) := by
  intro sh
  have hprint : Command.Commutes f printDirectory := fun sh => Shell.commutes_putOut h _ 0 sh
  have hwhere : (sh.withStreams f).session = sh.session := rfl
  unfold runCd
  rw [hwhere]
  cases destination sh.session operands with
  | noHome => rfl
  | stay => exact hprint sh
  | target t => exact commutes_moveTo t (fun _ => rfl) sh
  | previous t => exact commutes_moveTo t hprint sh

theorem commutes_runHelp (operands : List Text) : Command.Commutes f (runHelp operands) := by
  intro sh
  unfold runHelp
  split
  · exact Shell.commutes_printLines h _ sh
  · split
    · exact Shell.commutes_putOut h _ 0 sh
    · rfl

theorem commutes_of_mem_table {b : Builtin} (hb : b ∈ table) (hne : b.name ≠ aliases.name)
    (operands : List Text) : Command.Commutes f (b.execute operands) := by
  simp only [table, List.mem_cons, List.not_mem_nil, or_false] at hb
  rcases hb with rfl | rfl | rfl | rfl | rfl | rfl | rfl | rfl
  · exact commutes_runExit operands
  · exact commutes_runCd h operands
  · exact fun sh => Shell.commutes_printLines h _ sh
  · exact commutes_runSetenv operands
  · exact commutes_runUnsetenv operands
  · exact commutes_runHelp h operands
  · exact fun sh => Shell.commutes_printLines h _ sh
  · exact absurd rfl hne

end Builtin
end Output

/-! ### All commands -/

section Unnoticed

variable (h : Streams.Unnoticed f)
include h

namespace Shell

theorem commutes_putErr (bytes : Bytes) (status : Status) :
    Command.Commutes f (putErr bytes status) := by
  intro sh
  rw [putErr_eq_ite, putErr_eq_ite, show (sh.withStreams f).streams = f sh.streams from rfl,
    h.errTakes, withStreams, withStreams, h.errAfter]

theorem commutes_complain (command message : Text) (status : Status) :
    Command.Commutes f (complain command message status) := fun sh =>
  commutes_putErr h _ status sh

theorem report_withStreams (sh : Shell) (command message : Text) :
    (sh.withStreams f).report command message = (sh.report command message).withStreams f := by
  unfold report
  rw [commutes_complain h]
  rcases complain command message 0 sh with ⟨fault | status, left⟩
  · rfl
  · rfl

end Shell

namespace Builtin

theorem commutes_runRequest (request : AliasRequest) :
    Command.Commutes f (runRequest request) := by
  intro sh
  unfold runRequest
  split
  · exact Shell.commutes_complain h _ _ 1 sh
  · exact Shell.commutes_complain h _ _ 1 sh
  · rfl
  · rfl
  next name _ =>
    have hvalue : (sh.withStreams f).session.aliases.get? name = sh.session.aliases.get? name := rfl
    dsimp only
    rw [hvalue]
    cases sh.session.aliases.get? name with
    | some value => exact Shell.commutes_putOut h.toSparesOut _ 0 sh
    | none => exact Shell.commutes_complain h _ _ 1 sh

theorem commutes_runRequests (status : Status) (requests : List AliasRequest) :
    Command.Commutes f (runRequests status requests) := by
  induction requests generalizing status with
  | nil => exact fun _ => rfl
  | cons request rest ih =>
    intro sh
    rw [runRequests_cons, runRequests_cons, commutes_runRequest h]
    rcases runRequest request sh with ⟨fault | ended, left⟩
    · rfl
    · exact ih _ left

theorem commutes_runAlias (operands : List Text) : Command.Commutes f (runAlias operands) := by
  intro sh
  cases operands with
  | nil => exact Shell.commutes_printLines h.toSparesOut _ sh
  | cons operand operands => exact commutes_runRequests h 0 _ sh

theorem commutes_command {b : Builtin} (hb : b ∈ table) (arguments : List Text) :
    Command.Commutes f (b.command arguments) := by
  intro sh
  unfold command
  cases b.parse arguments with
  | error refusal =>
    dsimp only
    unfold refuse
    split
    · exact Shell.commutes_putErr h _ 1 sh
    · exact Shell.commutes_putOut h.toSparesOut _ 0 sh
  | ok given =>
    have hexecute : Command.Commutes f (b.execute given.operands) := by
      by_cases halias : b.name = aliases.name
      · obtain rfl : b = aliases := eq_of_name hb (by simp [table]) halias
        exact commutes_runAlias h given.operands
      · exact commutes_of_mem_table h.toSparesOut hb halias given.operands
    dsimp only
    rw [hexecute]
    rcases b.execute given.operands sh with ⟨fault | status, left⟩
    · exact Shell.commutes_complain h _ _ _ left
    · rfl

end Builtin

namespace External

theorem commutes_copy (outcome : Outcome) : Command.Commutes f (copy outcome) := by
  intro sh
  unfold copy
  rw [Shell.commutes_putOut h.toSparesOut]
  rcases Shell.putOut outcome.out 0 sh with ⟨fault | _, left⟩
  · rfl
  · exact Shell.commutes_putErr h _ _ left

theorem commutes_run (path : Path) (name : Text) (arguments : List Text) :
    Command.Commutes f (run programs path name arguments) := by
  intro sh
  have hflush : (sh.withStreams f).streams.flush = sh.streams.flush := h.flush sh.streams
  have hstarted : programs (sh.withStreams f).host
        (call (sh.withStreams f).session path name arguments) =
      programs sh.host (call sh.session path name arguments) := rfl
  unfold run
  rw [hflush, hstarted]
  cases sh.streams.flush with
  | error fault => rfl
  | ok =>
    dsimp only
    rcases programs sh.host (call sh.session path name arguments) with cause | ⟨ended, host⟩
    · rfl
    · cases ended with
      | error cause => rfl
      | ok outcome => exact commutes_copy h outcome { sh with host }

end External

namespace Shell

/-- A command runs in the same way on streams whose change is not noticed. -/
theorem run_withStreams (name : Text) (arguments : List Text) (sh : Shell) :
    (sh.withStreams f).run (defaultFactories programs) name arguments =
      ((sh.run (defaultFactories programs) name arguments).1,
        (sh.run (defaultFactories programs) name arguments).2.withStreams f) := by
  have hfound : ((defaultFactories programs).findSome? fun factory =>
        factory (sh.withStreams f) name arguments) =
      (defaultFactories programs).findSome? fun factory => factory sh name arguments := rfl
  unfold run
  rw [hfound]
  cases hcommand :
      (defaultFactories programs).findSome? fun factory => factory sh name arguments with
  | none => exact Prod.ext rfl (report_withStreams h sh _ _)
  | some command =>
    have hmade : Command.Commutes f command := by
      obtain ⟨b, hb, -, rfl⟩ | ⟨path, rfl⟩ := eq_of_factory hcommand
      · exact Builtin.commutes_command h hb arguments
      · exact External.commutes_run h path name arguments
    dsimp only
    rw [hmade]
    rcases command sh with ⟨fault | status, left⟩
    · exact Prod.ext rfl (report_withStreams h left _ _)
    · rfl

end Shell
end Unnoticed
end LineShell
