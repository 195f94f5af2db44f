import LineShell.Proofs.Bindings
import LineShell.Proofs.Changes

/-!
Setting a variable and unsetting it again. `setenv` takes all its arguments as operands; `unsetenv`
does so from the first operand on, and before that looks for options and requests for help.
-/
namespace LineShell

variable {programs : Programs}

namespace Builtin

/-- A synopsis with any number of operands takes everything from the first operand on. -/
theorem parse_of_isOperand {b : Builtin} (hb : b.literal = false) {rest : Text}
    (hs : b.synopsis.operands = .rest rest) {argument : Text} (h : Synopsis.IsOperand argument)
    (arguments : List Text) :
    b.parse (argument :: arguments) = .ok { operands := argument :: arguments } := by
  rw [parse, hb, if_neg Bool.false_ne_true, Synopsis.parse,
    Synopsis.read_of_rest _ _ _ _ hs (fun _ => h), Synopsis.read_ended _ _ hs]
  rfl

/-- A single argument that is no operand is a request for help, ends the options or is refused. -/
theorem operands_of_not_isOperand {b : Builtin} (hb : b.literal = false)
    (hs : b.synopsis.switches = []) {argument : Text} (h : ¬ Synopsis.IsOperand argument)
    {given : Arguments} (hgiven : b.parse [argument] = .ok given) : given.operands = [] := by
  rw [parse, hb, if_neg Bool.false_ne_true, Synopsis.parse] at hgiven
  by_cases hh : Synopsis.asksForHelp argument
  · rw [Synopsis.read_of_help _ _ _ _ hh] at hgiven
    simp [Synopsis.read] at hgiven
  have hh : Synopsis.asksForHelp argument = false := by simpa using hh
  by_cases hmark : argument = ['-', '-']
  · rw [hmark, Synopsis.read_of_mark] at hgiven
    obtain rfl := by simpa [Synopsis.read] using hgiven
    rfl
  · have hdash : argument.head? = some '-' := by simpa [Synopsis.IsOperand, hh] using h
    rw [Synopsis.read_of_dash _ _ _ hs hh hmark hdash] at hgiven
    simp at hgiven

end Builtin

namespace Shell

variable (sh : Shell)

theorem findSome?_builtin {b : Builtin} {name : Text}
    (hb : Builtin.table.find? (·.name == name) = some b) (arguments : List Text) :
    ((defaultFactories programs).findSome? fun factory => factory sh name arguments) =
      some (b.command arguments) := by
  rw [defaultFactories, List.findSome?_cons_of_isSome] <;> simp [Builtin.factory, hb]

/-- A builtin that takes its arguments and succeeds. -/
theorem run_builtin {b : Builtin} {name : Text} {arguments : List Text} {given : Arguments}
    {status : Status} {sh sh' : Shell} (hb : Builtin.table.find? (·.name == name) = some b)
    (hparse : b.parse arguments = .ok given)
    (hexec : b.execute given.operands sh = (.ok status, sh')) :
    sh.run (defaultFactories programs) name arguments = (status, sh') := by
  have hcommand : b.command arguments sh = (.ok status, sh') := by
    rw [Builtin.command, hparse]
    dsimp only
    rw [hexec]
  rw [run, findSome?_builtin sh hb]
  dsimp only
  rw [hcommand]

theorem run_setenv {name : Text} (h : Builtin.isVariableName name) (value : Text) :
    sh.run (defaultFactories programs) "setenv".toList [name, value] =
      (0, { sh with session.env := sh.session.env.set name value }) := by
  have hparse : Builtin.setenv.parse [name, value] = .ok { operands := [name, value] } :=
    Builtin.parse_literal rfl rfl _
  have hexec : Builtin.runSetenv [name, value] sh =
      (.ok 0, { sh with session.env := sh.session.env.set name value }) := by
    rw [Builtin.runSetenv, if_pos h]
  exact run_builtin rfl hparse hexec

theorem run_unsetenv {name : Text} (h : Synopsis.IsOperand name) (names : List Text) :
    sh.run (defaultFactories programs) "unsetenv".toList (name :: names) =
      (0, { sh with session.env := (name :: names).foldl Bindings.unset sh.session.env }) :=
  run_builtin rfl (Builtin.parse_of_isOperand (b := Builtin.unsetenv) rfl rfl h names) rfl

/-- Asked to unset what it does not take for a name, `unsetenv` leaves the session as it was. -/
theorem session_run_unsetenv {name : Text} (h : ¬ Synopsis.IsOperand name) :
    (sh.run (defaultFactories programs) "unsetenv".toList [name]).2.session = sh.session := by
  have hb : Builtin.table.find? (·.name == "unsetenv".toList) = some Builtin.unsetenv := rfl
  refine session_run (P := (· = sh.session)) sh rfl fun command hcommand => ?_
  rw [findSome?_builtin sh hb] at hcommand
  obtain rfl := Option.some.inj hcommand
  refine Builtin.session_command (P := (· = sh.session)) _ _ sh rfl fun given hgiven => ?_
  rw [Builtin.operands_of_not_isOperand rfl rfl h hgiven]
  rfl

/-- Unsetting a variable undoes setting it, unless its name looks like an option or asks for help:
such a variable stays set. No other variable is touched. -/
theorem unsetenv_of_setenv (hdistinct : sh.session.env.names.Nodup) {name : Text}
    (hname : Builtin.isVariableName name) (value : Text) :
    let set := sh.run (defaultFactories programs) "setenv".toList [name, value]
    let unset := set.2.run (defaultFactories programs) "unsetenv".toList [name]
    (if name.head? ≠ some '-' ∧ name ≠ "help".toList then
        unset.1 = 0 ∧ unset.2.session.env.get? name = none
      else unset.2.session.env.get? name = some value) ∧
      ∀ other ≠ name, unset.2.session.env.get? other = sh.session.env.get? other := by
  intro set unset
  obtain ⟨-, hn⟩ := by simpa [Builtin.isVariableName] using hname
  have hset : set = _ := run_setenv sh hname value
  have hget := Bindings.get?_set sh.session.env hn value
  have hnodup : (sh.session.env.set name value).names.Nodup := Bindings.nodup_set hdistinct hn value
  -- Either `unsetenv` takes the name for an operand, or it gets no operand and changes nothing.
  by_cases hop : Synopsis.IsOperand name
  · have hunset : unset = _ := run_unsetenv set.2 hop []
    rw [if_pos (Synopsis.isOperand_iff.1 hop), hunset, hset]
    refine ⟨⟨rfl, Bindings.get?_unset_self hnodup name⟩, fun other hother => ?_⟩
    exact (Bindings.get?_unset_of_ne _ hother).trans ((hget other).trans (if_neg hother))
  · have hunset : unset.2.session = set.2.session := session_run_unsetenv set.2 hop
    rw [if_neg (mt Synopsis.isOperand_iff.2 hop), hunset, hset]
    exact ⟨(hget name).trans (if_pos rfl), fun other hother => (hget other).trans (if_neg hother)⟩

/-- A new variable is gone again, and the one beside it keeps its value. -/
theorem unsetenv_of_setenv_new :
    let sh : Shell := { session := { env := .ofPairs [("A".toList, "1".toList)] } }
    let set := sh.run (defaultFactories .echo) "setenv".toList ["B".toList, "=".toList]
    let unset := set.2.run (defaultFactories .echo) "unsetenv".toList ["B".toList]
    unset.1 = 0 ∧ unset.2.session.env.get? "B".toList = none ∧
      unset.2.session.env.get? "A".toList = some "1".toList := by
  intro sh set unset
  have hdistinct : sh.session.env.names.Nodup := by decide
  have hname : Builtin.isVariableName "B".toList := by decide
  obtain ⟨hself, hothers⟩ := unsetenv_of_setenv sh hdistinct hname "=".toList
  obtain ⟨hstatus, hgone⟩ := (if_pos (by decide)).mp hself
  exact ⟨hstatus, hgone, hothers "A".toList (by decide)⟩

/-- Variables with the name of an option or of the request for help cannot be unset. -/
theorem unsetenv_option_stays :
    let sh : Shell := {}
    sh.session.env.names.Nodup ∧
      ∀ name ∈ ["-x".toList, "help".toList],
        let set := sh.run (defaultFactories .echo) "setenv".toList [name, "1".toList]
        let unset := set.2.run (defaultFactories .echo) "unsetenv".toList [name]
        Builtin.isVariableName name ∧ set.1 = 0 ∧
          unset.2.session.env.get? name = some "1".toList := by
  decide +kernel

end Shell
end LineShell
