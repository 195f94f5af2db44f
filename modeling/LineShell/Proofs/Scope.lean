import LineShell.Proofs.Bindings
import LineShell.Proofs.Rejections

/-!
What each builtin may change. A builtin has a scope, which follows from its operands alone, and
leaves everything outside of it as it was, whatever it ends with and whatever its streams refuse.
-/
namespace LineShell

/-- A part of a session: some variables and aliases, by their names, and two single fields. -/
structure Scope where
  env : List Text := []
  aliases : List Text := []
  directory : Bool := false
  exitRequest : Bool := false
  deriving DecidableEq, Repr

/-- Two sessions are the same outside of the scope. What is left of the variables and aliases is in
its old order. -/
structure Scope.Covers (scope : Scope) (s s' : Session) : Prop where
  env : s'.env.except scope.env = s.env.except scope.env
  aliases : s'.aliases.except scope.aliases = s.aliases.except scope.aliases
  directory : scope.directory = false → s'.directory = s.directory
  exitRequest : scope.exitRequest = false → s'.exitRequest = s.exitRequest
  others : s' =
    { s with
      env := s'.env, aliases := s'.aliases, directory := s'.directory
      exitRequest := s'.exitRequest }

namespace Scope.Covers

variable {scope : Scope} {s s₁ s₂ : Session}

theorem refl (scope : Scope) (s : Session) : scope.Covers s s where
  env := rfl
  aliases := rfl
  directory _ := rfl
  exitRequest _ := rfl
  others := rfl

theorem trans (h₁ : scope.Covers s s₁) (h₂ : scope.Covers s₁ s₂) : scope.Covers s s₂ where
  env := h₂.env.trans h₁.env
  aliases := h₂.aliases.trans h₁.aliases
  directory h := (h₂.directory h).trans (h₁.directory h)
  exitRequest h := (h₂.exitRequest h).trans (h₁.exitRequest h)
  others := by
    have hothers := h₂.others
    rw [h₁.others] at hothers
    exact hothers

/-- With nothing in its scope, a session stays the same. -/
theorem eq_of_empty (h : Scope.Covers {} s s₁) : s₁ = s := by
  have henv : s₁.env = s.env := Bindings.eq_of_except_nil h.env
  have haliases : s₁.aliases = s.aliases := Bindings.eq_of_except_nil h.aliases
  rw [h.others, henv, haliases, h.directory rfl, h.exitRequest rfl]

/-! The scope of each change. -/

theorem stop (h : scope.exitRequest) (status : Status) :
    scope.Covers s { s with exitRequest := some status } :=
  { refl scope s with exitRequest := fun hkept => absurd hkept (by simp [h]), others := rfl }

theorem setVariable {name : Text} (hname : '=' ∉ name) (hm : name ∈ scope.env)
    (value : Text) : scope.Covers s { s with env := s.env.set name value } :=
  { refl scope s with env := Bindings.except_set _ hname value hm, others := rfl }

theorem unsetVariable {name : Text} (hm : name ∈ scope.env) :
    scope.Covers s { s with env := s.env.unset name } :=
  { refl scope s with env := Bindings.except_unset _ hm, others := rfl }

theorem setAlias {name : Text} (hname : '=' ∉ name) (hm : name ∈ scope.aliases) (value : Text) :
    scope.Covers s { s with aliases := s.aliases.set name value } :=
  { refl scope s with aliases := Bindings.except_set _ hname value hm, others := rfl }

theorem unsetAlias {name : Text} (hm : name ∈ scope.aliases) :
    scope.Covers s { s with aliases := s.aliases.unset name } :=
  { refl scope s with aliases := Bindings.except_unset _ hm, others := rfl }

theorem moveTo (h : scope.directory) (hold : "OLDPWD".toList ∈ scope.env)
    (hnew : "PWD".toList ∈ scope.env) (there : Path) :
    scope.Covers s (s.moveTo there) where
  env := by
    rw [Session.moveTo, Bindings.except_set _ (by decide) _ hnew,
      Bindings.except_set _ (by decide) _ hold]
  aliases := rfl
  directory hkept := absurd hkept (by simp [h])
  exitRequest _ := rfl
  others := rfl

end Scope.Covers

namespace Builtin

/-- The names that operands of `alias` give: what stands in front of the first `=`. -/
def definedNames (operands : List Text) : List Text :=
  operands.filterMap fun operand => (Text.cut? '=' operand).map (·.1)

/-- What a builtin may change that is run with these operands. -/
def scope (b : Builtin) (operands : List Text) : Scope :=
  if b.name = exit.name then { exitRequest := true }
  else if b.name = cd.name then
    { directory := true, env := ["OLDPWD".toList, "PWD".toList] }
  else if b.name = setenv.name then { env := operands.take 1 }
  else if b.name = unsetenv.name then { env := operands }
  else if b.name = aliases.name then { aliases := definedNames operands }
  else {}

section Covers

variable {scope : Scope} (sh : Shell)

theorem covers_print (t : Text) : scope.Covers sh.session (Shell.print t sh).2.session := by
  rw [Shell.session_print]
  exact .refl scope sh.session

theorem covers_printLines (lines : List Text) :
    scope.Covers sh.session (Shell.printLines lines sh).2.session := by
  rw [Shell.session_printLines]
  exact .refl scope sh.session

theorem covers_runExit (operands : List Text) :
    (exit.scope operands).Covers sh.session (runExit operands sh).2.session := by
  unfold runExit
  split
  · exact .stop rfl _
  · split
    · exact .stop rfl _
    · exact .refl _ sh.session

theorem covers_moveTo {operands : List Text} (target : Text) {andThen : Command}
    (h : ∀ sh, (andThen sh).2.session = sh.session) :
    (cd.scope operands).Covers sh.session (moveTo target andThen sh).2.session := by
  unfold moveTo
  split
  · exact .refl _ sh.session
  next there _ =>
    rw [h]
    exact .moveTo rfl (List.mem_cons_self ..) (List.mem_cons_of_mem _ (List.mem_cons_self ..)) there

theorem covers_runCd (operands : List Text) :
    (cd.scope operands).Covers sh.session (runCd operands sh).2.session := by
  unfold runCd
  split
  · exact .refl _ sh.session
  · exact covers_print sh _
  · exact covers_moveTo sh _ fun _ => rfl
  · exact covers_moveTo sh _ fun sh => Shell.session_print _ sh

theorem covers_runSetenv (operands : List Text) :
    (setenv.scope operands).Covers sh.session (runSetenv operands sh).2.session := by
  unfold runSetenv
  split
  next name value =>
    split
    next hvalid =>
      obtain ⟨-, hname⟩ := by simpa [isVariableName] using hvalid
      exact .setVariable hname (List.mem_cons_self ..) value
    next => exact .refl _ sh.session
  next => exact .refl _ sh.session

theorem covers_foldl_unset {names : List Text} (h : names ⊆ scope.env) (s : Session) :
    scope.Covers s { s with env := names.foldl Bindings.unset s.env } := by
  induction names generalizing s with
  | nil => exact .refl scope s
  | cons name names ih =>
    obtain ⟨hname, hnames⟩ := List.cons_subset.1 h
    have hfirst : scope.Covers s { s with env := s.env.unset name } := .unsetVariable hname
    exact hfirst.trans (ih hnames { s with env := s.env.unset name })

theorem covers_runUnsetenv (names : List Text) :
    (unsetenv.scope names).Covers sh.session (runUnsetenv names sh).2.session := by
  unfold runUnsetenv
  split
  · exact .refl _ sh.session
  · exact covers_foldl_unset (List.Subset.refl _) sh.session

theorem covers_runHelp (operands : List Text) :
    (help.scope operands).Covers sh.session (runHelp operands sh).2.session := by
  unfold runHelp
  split
  · exact covers_printLines sh _
  · split
    · exact covers_print sh _
    · exact .refl _ sh.session

/-- A request that defines or removes an alias has its name in the scope. -/
theorem covers_runAlias (operands : List Text) :
    (aliases.scope operands).Covers sh.session (runAlias operands sh).2.session := by
  obtain ⟨front, hfront, hsession⟩ := exists_carryOut_runAlias operands sh
  have hnamed (name value : Text) (hm : .define name value ∈ front) :
      '=' ∉ name ∧ name ∈ (aliases.scope operands).aliases := by
    obtain ⟨operand, hoperand, rest, hcut⟩ := operand_of_define (hfront.mem hm)
    refine ⟨(Text.cut?_eq_some_iff.1 hcut).2, ?_⟩
    exact List.mem_filterMap.2 ⟨operand, hoperand, by rw [hcut]; rfl⟩
  let P (table : Bindings) : Prop :=
    (aliases.scope operands).Covers sh.session { sh.session with aliases := table }
  rw [hsession]
  refine carryOut_induction (P := P) (fun table name value hm _ _ h => ?_)
    (fun table name hm h => ?_) (.refl _ sh.session)
  · obtain ⟨hname, hscope⟩ := hnamed name value hm
    exact h.trans (.setAlias hname hscope value)
  · obtain ⟨-, hscope⟩ := hnamed name [] hm
    exact h.trans (.unsetAlias hscope)

end Covers

theorem covers_of_mem_table {b : Builtin} (hb : b ∈ table) (operands : List Text) (sh : Shell) :
    (b.scope operands).Covers sh.session (b.execute operands sh).2.session := by
  simp only [table, List.mem_cons, List.not_mem_nil, or_false] at hb
  rcases hb with rfl | rfl | rfl | rfl | rfl | rfl | rfl | rfl
  · exact covers_runExit sh operands
  · exact covers_runCd sh operands
  · exact covers_printLines sh _
  · exact covers_runSetenv sh operands
  · exact covers_runUnsetenv sh operands
  · exact covers_runHelp sh operands
  · exact covers_printLines sh _
  · exact covers_runAlias sh operands

/-- A builtin leaves a session as it was outside of its scope, whether or not its streams take what
it writes: where it is not run with its arguments, and where it only shows something, all of it. -/
theorem covers_command {b : Builtin} (hb : b ∈ table) (arguments : List Text) (sh : Shell) :
    let s := sh.session
    let s' := (b.command arguments sh).2.session
    s' =
        { s with
          env := s'.env, aliases := s'.aliases, directory := s'.directory
          exitRequest := s'.exitRequest } ∧
      (∀ refusal, b.parse arguments = .error refusal → s' = s) ∧
      (b.name ∈ [env.name, help.name, history.name] → s' = s) ∧
      ∀ given, b.parse arguments = .ok given → (b.scope given.operands).Covers s s' := by
  intro s s'
  have hcovers (given : Arguments) (hgiven : b.parse arguments = .ok given) :
      (b.scope given.operands).Covers s s' := by
    refine session_command (P := (b.scope given.operands).Covers s) _ b sh (.refl _ s) fun g hg => ?_
    obtain rfl : g = given := Except.ok.inj (hg.symm.trans hgiven)
    exact covers_of_mem_table hb g.operands sh
  have hrefused (refusal : Refusal) (hrefusal : b.parse arguments = .error refusal) : s' = s := by
    refine session_command (P := (· = s)) _ b sh rfl fun g hg => ?_
    exact absurd (hg.symm.trans hrefusal) nofun
  cases hparse : b.parse arguments with
  | error refusal =>
    have hsame : s' = s := hrefused refusal hparse
    exact ⟨by rw [hsame], hparse ▸ hrefused, fun _ => hsame, nofun⟩
  | ok given =>
    have hthis := hcovers given hparse
    refine ⟨hthis.others, nofun, fun hname => ?_, hparse ▸ hcovers⟩
    have hscope : b.scope given.operands = {} := by
      simp only [List.mem_cons, List.not_mem_nil, or_false] at hname
      rcases hname with hname | hname | hname <;> rw [scope, hname] <;> rfl
    exact (hscope ▸ hthis).eq_of_empty

/-- An error stream that fails stops `alias` between two definitions. Those of other names keep
their values and places. -/
theorem covers_command_stopped :
    let sh : Shell :=
      { session := { aliases := .ofPairs [(['a'], ['1']), (['b'], ['2']), (['c'], ['3'])] }
        streams.err.refusesWrites := true }
    let arguments := ["b=5".toList, "=".toList, "c=6".toList]
    let s' := (aliases.command arguments sh).2.session
    s'.aliases.texts = ["a=1".toList, "b=5".toList, "c=3".toList] ∧
      s'.aliases.except [['b'], [], ['c']] = [⟨0, "a=1".toList⟩] := by
  intro sh arguments s'
  have hparse : aliases.parse arguments = .ok { operands := arguments } := parse_literal rfl rfl _
  obtain ⟨-, -, -, hcovers⟩ :=
    covers_command (b := aliases) (by simp [table]) arguments sh
  refine ⟨by decide +kernel, ?_⟩
  exact (hcovers _ hparse).aliases

end Builtin
end LineShell
