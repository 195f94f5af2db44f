import LineShell.Proofs.Diagnostics
import LineShell.Proofs.Streams

/-!
Builtins whose diagnostics are lost, because the error stream refuses what is written to it. A
diagnostic that is lost is a failure of its own: it ends the builtin with status 1, and `alias`
carries out nothing behind it.
-/
namespace LineShell

variable {programs : Programs}

/-- The shell with an error stream that refuses all that is written to it, or takes it all. -/
def Shell.refusing (sh : Shell) (refuses : Bool) : Shell :=
  { sh with
    streams := { sh.streams with
      err := { sh.streams.err with failures := [], refusesWrites := refuses } } }

/-- A command that does nothing with the error stream. -/
def Command.Quiet (command : Command) : Prop :=
  ∀ (sh : Shell) (refuses : Bool),
    command (sh.refusing refuses) = ((command sh).1, (command sh).2.refusing refuses)

theorem Utf8.encode_line_ne_nil (t : Text) : encode t.line ≠ [] := by
  rw [Text.line, encode_append]
  exact List.append_ne_nil_of_right_ne_nil _ (List.cons_ne_nil _ _)

namespace Shell

theorem refusesAll_refusing (sh : Shell) : (sh.refusing true).streams.err.RefusesAll := ⟨rfl, rfl⟩

theorem sparesOut_refusing (refuses : Bool) :
    Streams.SparesOut fun s =>
      { s with err := { s.err with failures := [], refusesWrites := refuses } } where
  takes _ _ := rfl
  after _ _ := rfl

theorem quiet_print (t : Text) : Command.Quiet (print t) := fun sh refuses =>
  commutes_putOut (sparesOut_refusing refuses) _ 0 sh

theorem putErr_line {sh : Shell} (h : sh.streams.err.RefusesAll) (t : Text) (status : Status) :
    putErr (Utf8.encode t.line) status sh = (.error (.plain "sink failed".toList), sh) := by
  rw [putErr_eq_ite, h.not_takes (Utf8.encode_line_ne_nil t), h.after_eq]
  rfl

theorem report_of_refusing {sh : Shell} (h : sh.streams.err.RefusesAll) (command message : Text) :
    sh.report command message =
      { sh with
        warnings := sh.warnings ++ [.diagnosticLost (.plain "sink failed".toList)] } := by
  rw [report, complain, putErr_line h]

/-- The shell when a line has been written to the error stream. Where that fails, the log says
so. -/
def saying (sh : Shell) (t : Text) : Shell :=
  let left := { sh with streams.err := sh.streams.err.after (Utf8.encode t.line) }
  if sh.streams.err.takes (Utf8.encode t.line) then left
  else { left with warnings := sh.warnings ++ [.diagnosticLost (.plain "sink failed".toList)] }

theorem report_eq_saying (sh : Shell) (command message : Text) :
    sh.report command message = sh.saying (sh.session.diagnostic command message) := by
  rw [report, complain, putErr_eq_ite, saying]
  split_ifs <;> rfl

/-- The shell when a builtin of this name has written a line to the error stream. Where that fails,
the failure has a diagnostic of its own. -/
def telling (sh : Shell) (name t : Text) : Shell :=
  let left := { sh with streams.err := sh.streams.err.after (Utf8.encode t.line) }
  if sh.streams.err.takes (Utf8.encode t.line) then left
  else left.saying (sh.session.diagnostic name "sink failed".toList)

theorem telling_eq {sh : Shell} (h : sh.streams.err.TakesAll) (name t : Text) :
    sh.telling name t =
      { sh with streams.err.content := sh.streams.err.content ++ Utf8.encode t.line } := by
  rw [telling, if_pos (h.takes _), h.after_eq]

@[simp] theorem session_saying (sh : Shell) (t : Text) : (sh.saying t).session = sh.session := by
  rw [saying]
  split_ifs <;> rfl

@[simp] theorem session_telling (sh : Shell) (name t : Text) :
    (sh.telling name t).session = sh.session := by
  rw [telling]
  split_ifs
  · rfl
  · rw [session_saying]

/-- Telling has no part in anything but the error stream and the log. -/
theorem exists_telling (sh : Shell) (name t : Text) :
    ∃ err warnings, sh.telling name t = { sh with streams.err := err, warnings } := by
  rw [telling, saying]
  split_ifs
  · exact ⟨_, _, rfl⟩
  · exact ⟨_, _, rfl⟩
  · exact ⟨_, _, rfl⟩

/-! ### Builtins that fail -/

section Faults

variable {b : Builtin} {name : Text} {arguments : List Text} {sh : Shell}
  (hb : Builtin.table.find? (·.name == name) = some b)
include hb

/-- A builtin ends with the status of what it has said last. Where that could not be said, the
status is lost. -/
theorem run_of_putErr {t : Text} {status : Status} {left : Shell}
    (hcommand : b.command arguments sh = putErr (Utf8.encode t.line) status left) :
    sh.run (defaultFactories programs) name arguments =
      (if left.streams.err.takes (Utf8.encode t.line) then status else 1, left.telling name t) := by
  rw [run, findSome?_builtin sh hb]
  dsimp only
  rw [hcommand, putErr_eq_ite, telling]
  split_ifs
  · rfl
  · dsimp only
    rw [report_eq_saying]
    rfl

/-- The fault of a builtin is reported. -/
theorem run_of_fault {given : Arguments} (hparse : b.parse arguments = .ok given) {fault : Fault}
    {left : Shell} (hexec : b.execute given.operands sh = (.error fault, left)) :
    let told := left.session.diagnostic b.name fault.message
    sh.run (defaultFactories programs) name arguments =
      (if left.streams.err.takes (Utf8.encode told.line) then fault.status else 1,
        left.telling name told) := by
  have hcommand : b.command arguments sh = complain b.name fault.message fault.status left := by
    rw [Builtin.command, hparse]
    dsimp only
    rw [hexec]
  exact run_of_putErr hb hcommand

/-- A builtin that is not run with its arguments does nothing but say so. -/
theorem run_of_refusal_eq {refusal : Refusal} (hparse : b.parse arguments = .error refusal)
    (herror : refusal.isError) :
    sh.run (defaultFactories programs) name arguments =
      (1, sh.telling name (Text.trimEnd (refusal.message b.synopsis))) := by
  have hcommand : b.command arguments sh =
      putErr (Utf8.encode (Text.trimEnd (refusal.message b.synopsis)).line) 1 sh := by
    rw [Builtin.command, hparse]
    dsimp only
    rw [Builtin.refuse, if_pos herror]
  rw [run_of_putErr hb hcommand, ite_self]

theorem run_of_refusal {refusal : Refusal} (hparse : b.parse arguments = .error refusal)
    (herror : refusal.isError) :
    (sh.run (defaultFactories programs) name arguments).1 = 1 ∧
      (sh.run (defaultFactories programs) name arguments).2.session = sh.session := by
  rw [run_of_refusal_eq hb hparse herror]
  exact ⟨rfl, session_telling _ _ _⟩

end Faults

end Shell

namespace Builtin

theorem quiet_of_mem_table {b : Builtin} (hb : b ∈ table) (hne : b.name ≠ aliases.name)
    (operands : List Text) : Command.Quiet (b.execute operands) := fun sh refuses =>
  commutes_of_mem_table (Shell.sparesOut_refusing refuses) hb hne operands sh

/-! ### Aliases -/

/-- The requests in front of the first one that is rejected. -/
def unrejected (aliases : Bindings) : List AliasRequest → List AliasRequest
  | [] => []
  | request :: rest =>
    match request.complaint? aliases with
    | some _ => []
    | none => request :: unrejected (request.carryOut aliases) rest

/-- The shell when requests have been carried out of which none is rejected. -/
def effect (requests : List AliasRequest) (sh : Shell) : Shell :=
  requests.foldl (fun sh request => request.effect sh) sh

theorem session_effect (requests : List AliasRequest) (sh : Shell) :
    (effect requests sh).session = carryOut sh.session requests := by
  induction requests generalizing sh with
  | nil => rfl
  | cons request rest ih => exact ih (request.effect sh)

theorem err_effect (requests : List AliasRequest) (sh : Shell) :
    (effect requests sh).streams.err = sh.streams.err := by
  induction requests generalizing sh with
  | nil => rfl
  | cons request rest ih => exact ih (request.effect sh)

theorem effect_refusing (requests : List AliasRequest) (sh : Shell) (refuses : Bool) :
    effect requests (sh.refusing refuses) = (effect requests sh).refusing refuses := by
  induction requests generalizing sh with
  | nil => rfl
  | cons request rest ih => exact ih (request.effect sh)

/-- Where no request is rejected, nothing is written to the error stream. -/
theorem runRequests_of_no_complaints (status : Status) (requests : List AliasRequest) {sh : Shell}
    (hout : sh.streams.out.TakesAll) (h : complaints sh.session.aliases requests = []) :
    runRequests status requests sh = (.ok status, effect requests sh) := by
  induction requests generalizing sh with
  | nil => rfl
  | cons request rest ih =>
    obtain ⟨hfirst, hrest⟩ := List.append_eq_nil_iff.1 h
    rw [Option.toList_eq_nil_iff] at hfirst
    have heffect : (request.effect sh).streams.out.TakesAll := ⟨hout.failures, hout.accepts⟩
    rw [runRequests_cons, runRequest_of_accepted hout hfirst]
    exact ih heffect hrest

/-- The first diagnostic that cannot be written is the end of it. -/
theorem runRequests_of_lost (status : Status) (requests : List AliasRequest) {sh : Shell}
    (hout : sh.streams.out.TakesAll) (herr : sh.streams.err.RefusesAll)
    (h : complaints sh.session.aliases requests ≠ []) :
    runRequests status requests sh =
      (.error (.plain "sink failed".toList),
        effect (unrejected sh.session.aliases requests) sh) := by
  induction requests generalizing sh with
  | nil => exact absurd rfl h
  | cons request rest ih =>
    rw [runRequests_cons, unrejected]
    cases hcomplaint : request.complaint? sh.session.aliases with
    | some message =>
      rw [runRequest_of_complaint hcomplaint, Shell.complain, Shell.putErr_line herr]
      rfl
    | none =>
      have heffect : (request.effect sh).streams.out.TakesAll := ⟨hout.failures, hout.accepts⟩
      rw [complaints, hcomplaint] at h
      rw [runRequest_of_accepted hout hcomplaint]
      exact ih heffect herr h

/-! ### With a diagnostic and without it -/

/-- The status of a builtin that complains. -/
def complaintStatus (b : Builtin) (arguments : List Text) : Status :=
  match b.parse arguments with
  | .ok _ => b.usageStatus
  | .error _ => 1

/-- The session that a builtin leaves that complains, where its diagnostics are lost or are not. -/
def sessionAfter (b : Builtin) (arguments : List Text) (s : Session) (lost : Bool) : Session :=
  if b.name = aliases.name then
    let requests := aliasRequests arguments
    carryOut s (if lost then unrejected s.aliases requests else requests)
  else s

/-- How a builtin ends when the error stream takes what it is given, and how when it does not. -/
inductive Loses (b : Builtin) (arguments : List Text) (sh : Shell) : Result → Result → Prop
  | nothing (status : Status) {left : Shell}
      (quiet : left.streams.err.content = sh.streams.err.content) :
      Loses b arguments sh (.ok status, left.refusing false) (.ok status, left.refusing true)
  | diagnostics {kept lost : Shell}
      (written : kept.streams.err.content ≠ sh.streams.err.content)
      (silent : lost.streams.err.content = sh.streams.err.content)
      (refused : lost.streams.err.RefusesAll)
      (sessionKept : kept.session = b.sessionAfter arguments sh.session false)
      (sessionLost : lost.session = b.sessionAfter arguments sh.session true) :
      Loses b arguments sh (.ok (b.complaintStatus arguments), kept)
        (.error (.plain "sink failed".toList), lost)

section Loses

variable {sh : Shell} (hout : sh.streams.out.TakesAll)
include hout

theorem loses_print (b : Builtin) (arguments : List Text) (t : Text) :
    b.Loses arguments sh (Shell.print t (sh.refusing false))
      (Shell.print t (sh.refusing true)) := by
  rw [Shell.quiet_print, Shell.quiet_print, Shell.print, Shell.putOut_eq_ite,
    if_pos (hout.takes _)]
  exact .nothing 0 rfl

/-- A builtin that says a line and does nothing else. -/
theorem loses_putErr {b : Builtin} {arguments : List Text} (hne : b.name ≠ aliases.name) (t : Text)
    {status : Status} (hstatus : b.complaintStatus arguments = status) :
    b.Loses arguments sh (Shell.putErr (Utf8.encode t.line) status (sh.refusing false))
      (Shell.putErr (Utf8.encode t.line) status (sh.refusing true)) := by
  have haccept : (sh.refusing false).streams.AcceptWrites := ⟨hout, ⟨rfl, rfl⟩⟩
  have hrefused : (sh.refusing true).streams.err.RefusesAll := sh.refusesAll_refusing
  have hsession (lost : Bool) : b.sessionAfter arguments sh.session lost = sh.session := if_neg hne
  rw [Shell.putErr_eq haccept, Shell.putErr_line hrefused, ← hstatus]
  refine .diagnostics ?_ rfl hrefused (hsession false).symm (hsession true).symm
  simpa [Shell.refusing] using Utf8.encode_line_ne_nil t

theorem loses_refuse {b : Builtin} {arguments : List Text} {refusal : Refusal}
    (hparse : b.parse arguments = .error refusal) (hne : b.name ≠ aliases.name) :
    b.Loses arguments sh (b.refuse refusal (sh.refusing false))
      (b.refuse refusal (sh.refusing true)) := by
  unfold refuse
  split
  · exact loses_putErr hout hne _ (by rw [complaintStatus, hparse])
  · exact loses_print hout b arguments _

theorem loses_alias (arguments : List Text) :
    aliases.Loses arguments sh (runAlias arguments (sh.refusing false))
      (runAlias arguments (sh.refusing true)) := by
  have haccept : (sh.refusing false).streams.AcceptWrites := ⟨hout, ⟨rfl, rfl⟩⟩
  have hrefused : (sh.refusing true).streams.out.TakesAll := hout
  cases arguments with
  | nil =>
    change aliases.Loses [] sh (Shell.printLines _ _) (Shell.printLines _ _)
    rw [Shell.printLines_eq, Shell.printLines_eq]
    exact loses_print hout aliases [] _
  | cons operand operands =>
    have hparse : aliases.parse (operand :: operands) = .ok { operands := operand :: operands } :=
      parse_literal rfl rfl _
    have hcomplains : aliases.complaintStatus (operand :: operands) = 1 := by
      rw [complaintStatus, hparse]
      rfl
    change aliases.Loses _ sh (runRequests 0 (aliasRequests (operand :: operands)) _)
      (runRequests 0 (aliasRequests (operand :: operands)) _)
    by_cases hnone : complaints sh.session.aliases (aliasRequests (operand :: operands)) = []
    · rw [runRequests_of_no_complaints 0 _ haccept.out hnone,
        runRequests_of_no_complaints 0 _ hrefused hnone, effect_refusing, effect_refusing]
      exact .nothing 0 (by rw [err_effect])
    · obtain ⟨hstatus, htext⟩ := runRequests_says 0 (aliasRequests (operand :: operands)) haccept
      obtain ⟨status, left, hran, hsession⟩ :=
        runRequests_eq haccept 0 (aliasRequests (operand :: operands))
      rw [hran] at hstatus htext
      obtain rfl : status = 1 := (Except.ok.inj hstatus).trans (if_neg hnone)
      rw [runRequests_of_lost 0 _ hrefused sh.refusesAll_refusing hnone, hran, ← hcomplains]
      refine .diagnostics ?_ ?_ ?_ hsession (session_effect _ _)
      · obtain ⟨message, rest, hmessages⟩ := List.exists_cons_of_ne_nil hnone
        have hsession : (sh.refusing false).session.aliases = sh.session.aliases := rfl
        rw [htext, hsession, hmessages, List.flatMap_cons, Utf8.encode_append]
        simpa [Shell.refusing] using fun he => absurd he (Utf8.encode_line_ne_nil _)
      · rw [err_effect]
        rfl
      · rw [err_effect]
        exact sh.refusesAll_refusing

theorem loses_of_mem_table {b : Builtin} (hb : b ∈ table) (arguments : List Text) :
    b.Loses arguments sh (b.command arguments (sh.refusing false))
      (b.command arguments (sh.refusing true)) := by
  by_cases halias : b.name = aliases.name
  · obtain rfl : b = aliases := eq_of_name hb (by simp [table]) halias
    have hparse : aliases.parse arguments = .ok { operands := arguments } := parse_literal rfl rfl _
    have hloses := loses_alias hout arguments
    have hexecute (sh : Shell) : aliases.execute arguments sh = runAlias arguments sh := rfl
    unfold command
    rw [hparse]
    dsimp only
    rw [hexecute, hexecute]
    generalize runAlias arguments (sh.refusing false) = kept,
      runAlias arguments (sh.refusing true) = lost at hloses
    cases hloses with
    | nothing status quiet => exact .nothing status quiet
    | diagnostics written silent refused sessionKept sessionLost =>
      -- That a diagnostic is lost is a fault, whose own diagnostic is lost as well.
      dsimp only
      rw [Shell.complain, Shell.putErr_line refused]
      exact .diagnostics written silent refused sessionKept sessionLost
  · unfold command
    cases hparse : b.parse arguments with
    | error refusal => exact loses_refuse hout hparse halias
    | ok given =>
      have hquiet := quiet_of_mem_table hb halias given.operands sh
      have hdoes := does_of_mem_table hb halias given.operands sh
      dsimp only
      rw [hquiet, hquiet]
      generalize b.execute given.operands sh = result at hdoes
      cases hdoes with
      | rejects fault status =>
        have hstatus : b.complaintStatus arguments = fault.status := by
          rw [complaintStatus, hparse]
          exact status.symm
        exact loses_putErr hout halias _ hstatus
      | stops status exits => exact .nothing status rfl
      | succeeds going quiet => exact .nothing 0 (congrArg Sink.content quiet)
      | fails _ _ refused => exact absurd hout refused

end Loses

theorem find?_of_mem_table {b : Builtin} (hb : b ∈ table) :
    table.find? (·.name == b.name) = some b := by
  simp only [table, List.mem_cons, List.not_mem_nil, or_false] at hb
  rcases hb with rfl | rfl | rfl | rfl | rfl | rfl | rfl | rfl <;> rfl

end Builtin

namespace Shell

/-- What becomes of a builtin where nothing can be written to the error stream. As long as it has
nothing to say there, nothing. Otherwise it ends with 1, so that the status is lost that `exit` and
`cd` have for operands that they reject, and `alias` does not go on behind the first request that it
rejects; no other builtin changes the session in either case. -/
theorem run_refusing {b : Builtin} (hb : b ∈ Builtin.table) (arguments : List Text) {sh : Shell}
    (hout : sh.streams.out.TakesAll) :
    let kept := (sh.refusing false).run (defaultFactories programs) b.name arguments
    let lost := (sh.refusing true).run (defaultFactories programs) b.name arguments
    lost.2.streams.err.content = sh.streams.err.content ∧
      (kept.2.streams.err.content = sh.streams.err.content →
        lost = (kept.1, kept.2.refusing true)) ∧
      (kept.2.streams.err.content ≠ sh.streams.err.content →
        kept.1 = b.complaintStatus arguments ∧ lost.1 = 1 ∧
          kept.2.session = b.sessionAfter arguments sh.session false ∧
          lost.2.session = b.sessionAfter arguments sh.session true) := by
  have hname := Builtin.find?_of_mem_table hb
  have hloses := Builtin.loses_of_mem_table hout hb arguments
  unfold run
  rw [findSome?_builtin (sh.refusing false) hname, findSome?_builtin (sh.refusing true) hname]
  dsimp only
  generalize b.command arguments (sh.refusing false) = kept,
    b.command arguments (sh.refusing true) = lost at hloses
  cases hloses with
  | nothing status quiet => exact ⟨quiet, fun _ => rfl, fun hne => absurd quiet hne⟩
  | diagnostics written silent refused sessionKept sessionLost =>
    dsimp only
    rw [report_of_refusing refused]
    exact ⟨silent, fun he => absurd he written, fun _ => ⟨rfl, rfl, sessionKept, sessionLost⟩⟩

/-- The definition is behind a query that is rejected, and is only made where that can be said. -/
theorem run_refusing_alias :
    let sh : Shell := { session := { aliases := .ofPairs [(['g'], "git".toList)] } }
    let arguments := ["g".toList, "nope".toList, "a=b".toList]
    let kept := (sh.refusing false).run (defaultFactories .echo) "alias".toList arguments
    let lost := (sh.refusing true).run (defaultFactories .echo) "alias".toList arguments
    kept.1 = 1 ∧ lost.1 = 1 ∧ kept.2.streams.err.text = ": 0: alias: nope not found\n".toList ∧
      lost.2.streams.err.text = [] ∧
      kept.2.session.aliases.texts = ["g=git".toList, "a=b".toList] ∧
      lost.2.session.aliases.texts = ["g=git".toList] := by
  intro sh arguments kept lost
  have hout : sh.streams.out.TakesAll := ⟨rfl, rfl⟩
  have hwritten : kept.2.streams.err.content ≠ sh.streams.err.content := by decide +kernel
  obtain ⟨hsilent, -, hdiffer⟩ :=
    run_refusing (b := Builtin.aliases) (by simp [Builtin.table]) arguments hout
  obtain ⟨hkept, hlost, hsessionKept, hsessionLost⟩ := hdiffer hwritten
  have hstatus : Builtin.aliases.complaintStatus arguments = 1 := by decide +kernel
  have htext : lost.2.streams.err.content = [] := hsilent
  refine ⟨hkept.trans hstatus, hlost, by decide +kernel, by rw [Sink.text, htext]; rfl, ?_, ?_⟩
  · rw [show kept.2.session = _ from hsessionKept]
    decide +kernel
  · rw [show lost.2.session = _ from hsessionLost]
    decide +kernel

/-- The status of a rejected operand is lost with the diagnostic, and so is a definition behind a
query that is rejected. -/
theorem run_refusing_differs :
    let sh : Shell := {}
    let run (refuses : Bool) (name : Text) (arguments : List Text) :=
      (sh.refusing refuses).run (defaultFactories .echo) name arguments
    sh.streams.out.TakesAll ∧
      (run false "exit".toList [['x']]).1 = 2 ∧ (run true "exit".toList [['x']]).1 = 1 ∧
      (run false "alias".toList [['q'], "a=b".toList]).2.session ≠
        (run true "alias".toList [['q'], "a=b".toList]).2.session := by
  refine ⟨⟨rfl, rfl⟩, ?_⟩
  decide +kernel

end Shell
end LineShell
