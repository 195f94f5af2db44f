import LineShell.Proofs.LostDiagnostics

/-!
Builtins that take all their arguments as operands. To them nothing is an option, a request for help
or the end of the options, and what they do with an argument does not hang on how it begins.
-/
namespace LineShell

variable {programs : Programs}

namespace Builtin

/-- Carries out the builtin with operands. It reports its own faults. -/
def perform (b : Builtin) (operands : List Text) : Command := fun sh =>
  match b.execute operands sh with
  | (.ok status, sh) => (.ok status, sh)
  | (.error fault, sh) => Shell.complain b.name fault.message fault.status sh

/-- The arguments are the operands that the builtin of this name is carried out with. -/
structure TakesAll (b : Builtin) (arguments : List Text) : Prop where
  parsed : b.parse arguments = .ok { operands := arguments }
  made (sh : Shell) : factory sh b.name arguments = some (b.perform arguments)

theorem takesAll_of_parse {b : Builtin} (hb : b ∈ table) {arguments : List Text}
    (hparse : b.parse arguments = .ok { operands := arguments }) : b.TakesAll arguments where
  parsed := hparse
  made sh := by
    have hcommand : b.command arguments = b.perform arguments := by
      funext sh
      rw [command, hparse]
      rfl
    rw [factory, find?_of_mem_table hb, Option.map_some, hcommand]

theorem isVariableName_iff {name : Text} : isVariableName name ↔ name ≠ [] ∧ '=' ∉ name := by
  simp [isVariableName]

end Builtin

namespace Shell

variable (sh : Shell)

/-- What `setenv` does not take ends it with 1, also where that cannot be said. -/
theorem run_setenv_of_fault {arguments : List Text} {message : Text}
    (hexec : Builtin.runSetenv arguments sh = (.error (.usage 1 message), sh)) :
    sh.run (defaultFactories programs) "setenv".toList arguments =
      (1, sh.telling "setenv".toList (sh.session.diagnostic "setenv".toList message)) := by
  have hrun : sh.run (defaultFactories programs) "setenv".toList arguments = _ :=
    run_of_fault (b := Builtin.setenv) rfl (Builtin.parse_literal rfl rfl arguments) hexec
  rw [hrun]
  split_ifs <;> rfl

theorem run_setenv_of_pair (name value : Text) :
    sh.run (defaultFactories programs) "setenv".toList [name, value] =
      if name ≠ [] ∧ '=' ∉ name then
        (0, { sh with session.env := sh.session.env.set name value })
      else
        (1, sh.telling "setenv".toList (sh.session.diagnostic "setenv".toList
          ("invalid variable name: ".toList ++ name))) := by
  split_ifs with hname
  · exact run_setenv sh (Builtin.isVariableName_iff.2 hname) value
  · refine run_setenv_of_fault sh ?_
    rw [Builtin.runSetenv, if_neg (mt Builtin.isVariableName_iff.1 hname)]

/-- With more than the one operand that it takes, a builtin says which one is too many, and does
nothing. -/
theorem run_optional {b : Builtin} (hb : b ∈ Builtin.table) (hliteral : b.literal)
    {name help : Text} (hoperands : b.synopsis.operands = .optional name help)
    (arguments : List Text) :
    match arguments with
    | _ :: extra :: _ =>
      sh.run (defaultFactories programs) b.name arguments =
        (1, sh.telling b.name (Text.trimEnd ("Unrecognized argument: ".toList ++ extra.line)))
    | _ => b.TakesAll arguments := by
  have hparse := Builtin.parse_optional hliteral hoperands arguments
  rcases arguments with _ | ⟨operand, _ | ⟨extra, rest⟩⟩
  · exact Builtin.takesAll_of_parse hb hparse
  · exact Builtin.takesAll_of_parse hb hparse
  · have hmessage : (Refusal.unrecognized extra).message b.synopsis =
        "Unrecognized argument: ".toList ++ extra.line := rfl
    dsimp only
    rw [run_of_refusal_eq (Builtin.find?_of_mem_table hb) hparse rfl, hmessage]

/-- Whatever its arguments look like, `alias` and `setenv` are carried out with all of them, and
`exit` and `cd` with the one that there is. `setenv` sets a variable if it is given a name and a
value; otherwise, and where `exit` and `cd` are given more, the status is 1 and a line on the error
stream is all that comes of it. -/
theorem run_literal (arguments : List Text) :
    let run (b : Builtin) := sh.run (defaultFactories programs) b.name arguments
    (∀ b ∈ [Builtin.aliases, Builtin.setenv], b.TakesAll arguments) ∧
      (match arguments with
        | [name, value] =>
          run Builtin.setenv =
            if name ≠ [] ∧ '=' ∉ name then
              (0, { sh with session.env := sh.session.env.set name value })
            else
              (1, sh.telling "setenv".toList (sh.session.diagnostic "setenv".toList
                ("invalid variable name: ".toList ++ name)))
        | _ =>
          run Builtin.setenv =
            (1, sh.telling "setenv".toList (sh.session.diagnostic "setenv".toList
              "Incorrect number of arguments".toList))) ∧
      ∀ b ∈ [Builtin.exit, Builtin.cd],
        match arguments with
        | _ :: extra :: _ =>
          run b = (1, sh.telling b.name
            (Text.trimEnd ("Unrecognized argument: ".toList ++ extra.line)))
        | _ => b.TakesAll arguments := by
  intro run
  refine ⟨List.forall_mem_cons.2 ⟨?_, List.forall_mem_singleton.2 ?_⟩, ?_,
    List.forall_mem_cons.2 ⟨?_, List.forall_mem_singleton.2 ?_⟩⟩
  · exact Builtin.takesAll_of_parse (by simp [Builtin.table]) (Builtin.parse_literal rfl rfl _)
  · exact Builtin.takesAll_of_parse (by simp [Builtin.table]) (Builtin.parse_literal rfl rfl _)
  · split
    next name value => exact run_setenv_of_pair sh name value
    next hpair =>
      refine run_setenv_of_fault sh ?_
      rw [Builtin.runSetenv]
      exact hpair
  · exact run_optional sh (by simp [Builtin.table]) rfl rfl arguments
  · exact run_optional sh (by simp [Builtin.table]) rfl rfl arguments

/-- The mark that ends options is a name and is one operand too many, an option is a value and the
request for help is a directory, and an error stream that refuses everything leaves the status. -/
theorem run_literal_marks :
    let sh : Shell := { session := { name := "hsh".toList } }
    let lost := sh.refusing true
    let run (sh : Shell) (b : Builtin) := sh.run (defaultFactories .echo) b.name
    Builtin.aliases.TakesAll ["help".toList, "--".toList, "-x=1".toList, []] ∧
      run sh Builtin.setenv ["--".toList, "-la".toList] =
        (0, { sh with session.env := sh.session.env.set "--".toList "-la".toList }) ∧
      (run sh Builtin.setenv ["--help".toList]).2.streams.err.text =
        "hsh: 0: setenv: Incorrect number of arguments\n".toList ∧
      Builtin.cd.TakesAll ["help".toList] ∧
      (run sh Builtin.cd [['-'], "--".toList]).2.streams.err.text =
        "Unrecognized argument: --\n".toList ∧
      (run lost Builtin.exit ["7".toList, "8".toList]).1 = 1 ∧
      (run lost Builtin.exit ["7".toList, "8".toList]).2.session = sh.session := by
  intro sh lost run
  obtain ⟨hall, -, -⟩ := @run_literal .echo sh ["help".toList, "--".toList, "-x=1".toList, []]
  obtain ⟨-, hset, -⟩ := @run_literal .echo sh ["--".toList, "-la".toList]
  obtain ⟨-, hsingle, -⟩ := @run_literal .echo sh ["--help".toList]
  obtain ⟨-, -, hone⟩ := @run_literal .echo sh ["help".toList]
  obtain ⟨-, -, hmore⟩ := @run_literal .echo sh [['-'], "--".toList]
  obtain ⟨-, -, hlost⟩ := @run_literal .echo lost ["7".toList, "8".toList]
  have hsingle : run sh Builtin.setenv ["--help".toList] = _ := hsingle
  have hmore : run sh Builtin.cd [['-'], "--".toList] = _ := hmore Builtin.cd (by simp)
  have hlost : run lost Builtin.exit ["7".toList, "8".toList] = _ := hlost Builtin.exit (by simp)
  refine ⟨hall _ (by simp), ?_, ?_, hone _ (by simp), ?_, ?_, ?_⟩
  · exact hset.trans (if_pos (by decide))
  · rw [hsingle]
    decide +kernel
  · rw [hmore]
    decide +kernel
  · rw [hlost]
  · rw [hlost]
    rfl

end Shell
end LineShell
