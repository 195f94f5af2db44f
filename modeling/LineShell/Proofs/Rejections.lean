import LineShell.Proofs.Changes
import Mathlib.Data.List.Nodup

/-!
How the builtins end, and what one that complains leaves behind. All but `alias` check their
operands before they change anything: they reject them with a status of their own and leave the
session as it was, or they succeed. Only `alias` takes its requests one by one and carries out those
that it does not reject.
-/
namespace LineShell

namespace Builtin

def usageStatus (b : Builtin) : Status :=
  if b.name = exit.name ∨ b.name = cd.name then 2 else 1

/-- What a builtin ends with that checks its operands first, and what it leaves. -/
inductive Does (b : Builtin) (sh : Shell) : Result → Prop
  | rejects (fault : Fault) (status : fault.status = b.usageStatus) : Does b sh (.error fault, sh)
  | stops (status : Status) (exits : b.name = exit.name) :
      Does b sh (.ok status, { sh with session.exitRequest := some status })
  | succeeds {left : Shell} (going : left.session.exitRequest = sh.session.exitRequest)
      (quiet : left.streams.err = sh.streams.err) : Does b sh (.ok 0, left)
  /-- What is to be shown cannot be written. -/
  | fails (fault : Fault) {left : Shell}
      (going : left.session.exitRequest = sh.session.exitRequest)
      (refused : ¬ sh.streams.out.TakesAll) : Does b sh (.error fault, left)

variable {sh : Shell}

/-- Something is shown, if it can be; the session may have changed before. -/
theorem does_print (b : Builtin) (t : Text) {session : Session}
    (hsession : session.exitRequest = sh.session.exitRequest) :
    b.Does sh (Shell.print t { sh with session }) := by
  rw [Shell.print, Shell.putOut_eq_ite]
  dsimp only
  split
  next => exact .succeeds hsession rfl
  next hrefused => exact .fails _ hsession fun hout => hrefused (hout.takes _)

theorem does_printLines (b : Builtin) (lines : List Text) :
    b.Does sh (Shell.printLines lines sh) := by
  rw [Shell.printLines_eq]
  exact does_print b _ rfl

theorem does_runExit (operands : List Text) : exit.Does sh (runExit operands sh) := by
  unfold runExit
  split
  · exact .stops _ rfl
  · split
    · exact .stops _ rfl
    · exact .rejects _ rfl

theorem does_moveTo (target : Text) {andThen : Command}
    (h : ∀ there, cd.Does sh (andThen { sh with session := sh.session.moveTo there })) :
    cd.Does sh (moveTo target andThen sh) := by
  unfold moveTo
  split
  · exact .rejects _ rfl
  · exact h _

theorem does_runCd (operands : List Text) : cd.Does sh (runCd operands sh) := by
  unfold runCd
  split
  · exact .rejects _ rfl
  · exact does_print cd _ rfl
  · exact does_moveTo _ fun _ => .succeeds rfl rfl
  · exact does_moveTo _ fun _ => does_print cd _ rfl

theorem does_runSetenv (operands : List Text) : setenv.Does sh (runSetenv operands sh) := by
  unfold runSetenv
  split
  · split
    · exact .succeeds rfl rfl
    · exact .rejects _ rfl
  · exact .rejects _ rfl

theorem does_runUnsetenv (names : List Text) : unsetenv.Does sh (runUnsetenv names sh) := by
  unfold runUnsetenv
  split
  · exact .rejects _ rfl
  · exact .succeeds rfl rfl

theorem does_runHelp (operands : List Text) : help.Does sh (runHelp operands sh) := by
  unfold runHelp
  split
  · exact does_printLines help _
  · split
    · exact does_print help _ rfl
    · exact .rejects _ rfl

theorem does_of_mem_table {b : Builtin} (hb : b ∈ table) (hne : b.name ≠ aliases.name)
    (operands : List Text) (sh : Shell) : b.Does sh (b.execute operands sh) := by
  simp only [table, List.mem_cons, List.not_mem_nil, or_false] at hb
  rcases hb with rfl | rfl | rfl | rfl | rfl | rfl | rfl | rfl
  · exact does_runExit operands
  · exact does_runCd operands
  · exact does_printLines env _
  · exact does_runSetenv operands
  · exact does_runUnsetenv operands
  · exact does_runHelp operands
  · exact does_printLines history _
  · exact absurd rfl hne

end Builtin

structure Streams.AcceptWrites (s : Streams) : Prop where
  out : s.out.TakesAll
  err : s.err.TakesAll

namespace Shell

variable {sh : Shell} (h : sh.streams.AcceptWrites)
include h

theorem putOut_eq (bytes : Bytes) (status : Status) :
    putOut bytes status sh =
      (.ok status, { sh with streams.out.content := sh.streams.out.content ++ bytes }) := by
  rw [putOut_eq_ite, if_pos (h.out.takes bytes), h.out.after_eq]

theorem putErr_eq (bytes : Bytes) (status : Status) :
    putErr bytes status sh =
      (.ok status, { sh with streams.err.content := sh.streams.err.content ++ bytes }) := by
  rw [putErr_eq_ite, if_pos (h.err.takes bytes), h.err.after_eq]

end Shell

namespace Builtin

/-- How a builtin ends that checks its arguments first: it rejects them and leaves everything as it
was, or it says nothing on the error stream. -/
inductive ChecksFirst (sh : Shell) : Result → Prop
  | rejected (fault : Fault) : ChecksFirst sh (.error fault, sh)
  | carriedOut (status : Status) {sh' : Shell} (quiet : sh'.streams.err = sh.streams.err) :
      ChecksFirst sh (.ok status, sh')

theorem checksFirst_of_mem_table {sh : Shell} (h : sh.streams.AcceptWrites) {b : Builtin}
    (hb : b ∈ table) (hne : b.name ≠ aliases.name) (operands : List Text) :
    ChecksFirst sh (b.execute operands sh) := by
  have hdoes := does_of_mem_table hb hne operands sh
  generalize b.execute operands sh = result at hdoes
  cases hdoes with
  | rejects fault => exact .rejected fault
  | stops status => exact .carriedOut status rfl
  | succeeds _ quiet => exact .carriedOut 0 quiet
  | fails _ _ refused => exact absurd h.out refused

/-! ### Aliases -/

section Aliases

variable {sh : Shell} (h : sh.streams.AcceptWrites)
include h

theorem runRequest_eq (request : AliasRequest) :
    ∃ status sh', runRequest request sh = (.ok status, sh') ∧ sh'.streams.AcceptWrites ∧
      sh'.session = { sh.session with aliases := request.carryOut sh.session.aliases } := by
  cases request with
  | define name value =>
    cases name with
    | nil => exact ⟨_, _, Shell.putErr_eq h _ _, ⟨h.out, ⟨h.err.1, h.err.2⟩⟩, rfl⟩
    | cons c name =>
      cases value with
      | nil => exact ⟨_, _, rfl, h, rfl⟩
      | cons d value => exact ⟨_, _, rfl, h, rfl⟩
  | query name =>
    cases name with
    | nil => exact ⟨_, _, Shell.putErr_eq h _ _, ⟨h.out, ⟨h.err.1, h.err.2⟩⟩, rfl⟩
    | cons c name =>
      unfold runRequest
      dsimp only
      split
      · exact ⟨_, _, Shell.putOut_eq h _ 0, ⟨⟨h.out.1, h.out.2⟩, h.err⟩, rfl⟩
      · exact ⟨_, _, Shell.putErr_eq h _ _, ⟨h.out, ⟨h.err.1, h.err.2⟩⟩, rfl⟩

/-- Every request is carried out that is not rejected, whatever became of those before it. -/
theorem runRequests_eq (status : Status) (requests : List AliasRequest) :
    ∃ status' sh', runRequests status requests sh = (.ok status', sh') ∧
      sh'.session = carryOut sh.session requests := by
  induction requests generalizing status sh with
  | nil => exact ⟨status, sh, rfl, rfl⟩
  | cons request rest ih =>
    obtain ⟨first, sh₁, hran, hsh₁, hsession⟩ := runRequest_eq h request
    obtain ⟨status', sh', hrest, hsession'⟩ := ih hsh₁ (if first = 0 then status else first)
    refine ⟨status', sh', ?_, ?_⟩
    · rw [runRequests_cons, hran]
      exact hrest
    · rw [hsession', hsession]
      rfl

theorem runAlias_eq (operands : List Text) :
    ∃ status sh', runAlias operands sh = (.ok status, sh') ∧
      sh'.session = carryOut sh.session (aliasRequests operands) := by
  unfold runAlias
  split
  · rw [Shell.printLines_eq]
    refine ⟨_, _, Shell.putOut_eq h _ 0, ?_⟩
    rw [aliasRequests]
    rfl
  · exact runRequests_eq h 0 _

end Aliases

theorem command_alias (arguments : List Text) {sh : Shell} (h : sh.streams.AcceptWrites) :
    ∃ status sh', aliases.command arguments sh = (.ok status, sh') ∧
      sh'.session = carryOut sh.session (aliasRequests arguments) := by
  obtain ⟨status, sh', hran, hsession⟩ := runAlias_eq h arguments
  have hparse : aliases.parse arguments = .ok { operands := arguments } := parse_literal rfl rfl _
  have hexecute : aliases.execute arguments sh = (.ok status, sh') := hran
  refine ⟨status, sh', ?_, hsession⟩
  rw [command, hparse]
  dsimp only
  rw [hexecute]

theorem eq_of_name {b₁ b₂ : Builtin} (h₁ : b₁ ∈ table) (h₂ : b₂ ∈ table) (h : b₁.name = b₂.name) :
    b₁ = b₂ :=
  List.inj_on_of_nodup_map (show (table.map name).Nodup by decide) h₁ h₂ h

/-- With streams that take what they are given, every builtin ends with a status. One that has
written to the error stream and fails leaves the session as it was; `alias` has by then carried out
those of its requests that it did not reject, and nothing else. -/
theorem session_of_complaint {b : Builtin} (hb : b ∈ table) (arguments : List Text) {sh : Shell}
    (h : sh.streams.AcceptWrites) :
    ∃ status sh', b.command arguments sh = (.ok status, sh') ∧
      (status ≠ 0 → sh'.streams.err ≠ sh.streams.err →
        sh'.session =
          if b.name = "alias".toList then carryOut sh.session (aliasRequests arguments)
          else sh.session) := by
  by_cases halias : b.name = "alias".toList
  · obtain rfl : b = aliases := eq_of_name hb (by simp [table]) halias
    obtain ⟨status, sh', hran, hsession⟩ := command_alias arguments h
    exact ⟨status, sh', hran, fun _ _ => hsession⟩
  rw [if_neg halias, command]
  split
  next refusal _ =>
    unfold refuse
    split
    · exact ⟨_, _, Shell.putErr_eq h _ _, fun _ _ => rfl⟩
    · exact ⟨_, _, Shell.putOut_eq h _ _, fun _ _ => rfl⟩
  next given _ =>
    have hchecks := checksFirst_of_mem_table h hb halias given.operands
    generalize b.execute given.operands sh = result at hchecks
    cases hchecks with
    | rejected fault => exact ⟨_, _, Shell.putErr_eq h _ _, fun _ _ => rfl⟩
    | carriedOut status quiet => exact ⟨status, _, rfl, fun _ hwrote => absurd quiet hwrote⟩

/-- A query and a name that are rejected, and between them a definition and a removal. -/
theorem session_of_complaint_alias :
    let sh : Shell := { session := { aliases := .ofPairs [(['x'], ['y'])] } }
    let arguments := ["nope".toList, "g=git".toList, "log".toList, "x=".toList, "=v".toList]
    let ended := aliases.command arguments sh
    ended.1.toOption = some 1 ∧ ended.2.streams.err ≠ sh.streams.err ∧
      ended.2.session = { sh.session with aliases := .ofPairs [(['g'], "git log".toList)] } := by
  intro sh arguments ended
  have hstatus : ended.1.toOption = some 1 := by decide +kernel
  have hwrote : ended.2.streams.err ≠ sh.streams.err := by decide +kernel
  have haccept : sh.streams.AcceptWrites := ⟨⟨rfl, rfl⟩, ⟨rfl, rfl⟩⟩
  obtain ⟨status, sh', hran, hsession⟩ :=
    session_of_complaint (b := aliases) (by simp [table]) arguments haccept
  have hended : ended = (.ok status, sh') := hran
  rw [hended] at hstatus hwrote ⊢
  obtain rfl := Option.some.inj hstatus
  refine ⟨rfl, hwrote, (hsession (by decide) hwrote).trans ?_⟩
  decide +kernel

/-- A definition is carried out beside a query that fails. -/
theorem session_of_complaint_changed :
    let sh : Shell := {}
    let ended := aliases.command ["nope".toList, "a=b".toList] sh
    sh.streams.AcceptWrites ∧ ended.1.toOption = some 1 ∧
      ended.2.streams.err.text = ": 0: alias: nope not found\n".toList ∧
      ended.2.session.aliases ≠ sh.session.aliases := by
  refine ⟨⟨⟨rfl, rfl⟩, ⟨rfl, rfl⟩⟩, ?_, ?_, ?_⟩
  · decide +kernel
  · decide +kernel
  · decide +kernel

end Builtin
end LineShell
