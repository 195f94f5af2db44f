import LineShell.Proofs.Rejections
import LineShell.Proofs.Variables
import LineShell.Text.Utf8.Ascii

/-!
What the shell says when a command fails. Everything is said in diagnostics, behind the name of the
shell, the line and the command; only what is said about arguments that cannot be read is not.
-/
namespace LineShell
open Utf8 (encode)

variable {programs : Programs}

/-- What is written are diagnostics of a command with these messages. -/
structure Session.Says (s : Session) (command : Text) (messages : List Text) (written : Bytes) :
    Prop where
  text : written = encode (messages.flatMap fun message => (s.diagnostic command message).line)
  heading : messages ≠ [] →
    encode (s.name ++ ": ".toList ++ Text.decimal s.lineCount.toNat ++ ": ".toList ++ command ++
      ": ".toList) <+: written

theorem Session.says (s : Session) (command : Text) (messages : List Text) :
    s.Says command messages
      (encode (messages.flatMap fun message => (s.diagnostic command message).line)) where
  text := rfl
  heading hne := by
    obtain ⟨message, rest, rfl⟩ := List.exists_cons_of_ne_nil hne
    rw [List.flatMap_cons, diagnostic, Text.line]
    generalize s.name ++ ": ".toList ++ Text.decimal s.lineCount.toNat ++ ": ".toList ++ command ++
      ": ".toList = heading
    rw [List.append_assoc, List.append_assoc, Utf8.encode_append]
    exact List.prefix_append _ _

namespace Builtin

/-- Why a request is rejected, if it is. -/
def AliasRequest.complaint? (aliases : Bindings) : AliasRequest → Option Text
  | .define [] _ | .query [] => some "invalid alias name".toList
  | .define _ _ => none
  | .query name =>
    match aliases.get? name with
    | some _ => none
    | none => some (name ++ " not found".toList)

/-- What is said about requests that are made one after the other. -/
def complaints (aliases : Bindings) : List AliasRequest → List Text
  | [] => []
  | request :: rest =>
    (request.complaint? aliases).toList ++ complaints (request.carryOut aliases) rest

/-- What a request that is not rejected shows. -/
def AliasRequest.answer (aliases : Bindings) : AliasRequest → Text
  | .define _ _ => []
  | .query name =>
    match aliases.get? name with
    | some value => (formatAlias name value).line
    | none => []

/-- The shell when a request has been carried out that is not rejected. -/
def AliasRequest.effect (request : AliasRequest) (sh : Shell) : Shell :=
  { sh with
    session.aliases := request.carryOut sh.session.aliases
    streams.out.content := sh.streams.out.content ++ encode (request.answer sh.session.aliases) }

theorem runRequest_of_complaint {request : AliasRequest} {sh : Shell} {message : Text}
    (h : request.complaint? sh.session.aliases = some message) :
    runRequest request sh = Shell.complain aliases.name message 1 sh := by
  unfold AliasRequest.complaint? at h
  split at h
  · rw [← Option.some.inj h]
    rfl
  · rw [← Option.some.inj h]
    rfl
  · cases h
  next name hname =>
    split at h
    next => cases h
    next hget =>
      rw [← Option.some.inj h, runRequest, hget]
      · rfl
      · exact hname

/-- A definition or a removal shows nothing. -/
theorem effect_define (name value : Text) (sh : Shell) :
    (AliasRequest.define name value).effect sh =
      { sh with
        session.aliases := (AliasRequest.define name value).carryOut sh.session.aliases } := by
  rw [AliasRequest.effect, AliasRequest.answer, show encode [] = [] from rfl, List.append_nil]

theorem runRequest_of_accepted {request : AliasRequest} {sh : Shell}
    (hout : sh.streams.out.TakesAll)
    (h : request.complaint? sh.session.aliases = none) :
    runRequest request sh = (.ok 0, request.effect sh) := by
  unfold AliasRequest.complaint? at h
  split at h
  · cases h
  · cases h
  next name value hname =>
    obtain ⟨c, name, rfl⟩ := List.exists_cons_of_ne_nil hname
    rw [effect_define]
    cases value <;> rfl
  next name hname =>
    split at h
    next value hget =>
      rw [runRequest, AliasRequest.effect, AliasRequest.carryOut, AliasRequest.answer, hget]
      · dsimp only
        rw [Shell.print, Shell.putOut_eq_ite, if_pos (hout.takes _), hout.after_eq]
      · exact hname
    next => cases h

theorem carryOut_of_complaint {request : AliasRequest} {aliases : Bindings} {message : Text}
    (h : request.complaint? aliases = some message) : request.carryOut aliases = aliases := by
  unfold AliasRequest.complaint? at h
  split at h
  · rfl
  · rfl
  · cases h
  · rfl

/-- With streams that take what they are given, one diagnostic is written for each request that is
rejected, and nothing else. -/
theorem runRequests_says (status : Status) (requests : List AliasRequest) {sh : Shell}
    (h : sh.streams.AcceptWrites) :
    let messages := complaints sh.session.aliases requests
    let ended := runRequests status requests sh
    ended.1 = .ok (if messages = [] then status else 1) ∧
      ended.2.streams.err.content = sh.streams.err.content ++
        encode (messages.flatMap fun message =>
          (sh.session.diagnostic aliases.name message).line) := by
  induction requests generalizing status sh with
  | nil => exact ⟨rfl, (List.append_nil _).symm⟩
  | cons request rest ih =>
    rw [runRequests_cons, complaints]
    cases hcomplaint : request.complaint? sh.session.aliases with
    | none =>
      have heffect : (request.effect sh).streams.AcceptWrites :=
        ⟨⟨h.out.failures, h.out.accepts⟩, h.err⟩
      rw [runRequest_of_accepted h.out hcomplaint]
      exact ih status heffect
    | some message =>
      let left : Shell := { sh with
        streams.err.content := sh.streams.err.content ++
          encode (sh.session.diagnostic aliases.name message).line }
      have hleft : left.streams.AcceptWrites := ⟨h.out, ⟨h.err.failures, h.err.accepts⟩⟩
      obtain ⟨hstatus, htext⟩ := ih 1 hleft
      rw [runRequest_of_complaint hcomplaint, Shell.complain, Shell.putErr_eq h,
        carryOut_of_complaint hcomplaint]
      refine ⟨?_, ?_⟩
      · simpa using hstatus
      · refine htext.trans ?_
        simp [left, Utf8.encode_append]

theorem runAlias_says (operands : List Text) {sh : Shell} (h : sh.streams.AcceptWrites) :
    let messages := complaints sh.session.aliases (aliasRequests operands)
    let ended := runAlias operands sh
    ended.1 = .ok (if messages = [] then 0 else 1) ∧
      ended.2.streams.err.content = sh.streams.err.content ++
        encode (messages.flatMap fun message =>
          (sh.session.diagnostic aliases.name message).line) := by
  unfold runAlias
  split
  · rw [aliasRequests, complaints, Shell.printLines_eq, Shell.print, Shell.putOut_eq h]
    exact ⟨rfl, (List.append_nil _).symm⟩
  · exact runRequests_says 0 _ h

/-- With streams that take what they are given, a builtin that is run writes diagnostics to the
error stream and nothing else. If there are any it fails, with its status for rejected operands. -/
theorem command_says {b : Builtin} (hb : b ∈ table) {arguments : List Text} {given : Arguments}
    (hparse : b.parse arguments = .ok given) {sh : Shell} (h : sh.streams.AcceptWrites) :
    let ended := b.command arguments sh
    ∃ status messages, ended.1 = .ok status ∧
      ended.2.streams.err.content = sh.streams.err.content ++
        encode (messages.flatMap fun message => (sh.session.diagnostic b.name message).line) ∧
      (messages = [] →
        status = 0 ∨ (b.name = exit.name ∧ ended.2.session.exitRequest = some status)) ∧
      (messages ≠ [] → status = b.usageStatus) ∧
      ∀ fault, (b.execute given.operands sh).1 = .error fault → messages = [fault.message] := by
  intro ended
  have hended : ended = b.command arguments sh := rfl
  rw [command, hparse] at hended
  dsimp only at hended
  by_cases halias : b.name = aliases.name
  · obtain rfl : b = aliases := eq_of_name hb (by simp [table]) halias
    obtain ⟨hstatus, htext⟩ := runAlias_says given.operands h
    have hresult : aliases.execute given.operands sh = runAlias given.operands sh := rfl
    rw [hresult] at hended ⊢
    generalize runAlias given.operands sh = result at hstatus htext hended
    obtain ⟨_, left⟩ := result
    obtain rfl := hstatus
    rw [hended]
    exact ⟨_, _, rfl, htext, fun hnone => .inl (if_pos hnone), fun hsome => if_neg hsome,
      fun _ he => by cases he⟩
  · have hdoes := does_of_mem_table hb halias given.operands sh
    generalize b.execute given.operands sh = result at hdoes hended ⊢
    cases hdoes with
    | rejects fault status =>
      dsimp only at hended
      rw [Shell.complain, Shell.putErr_eq h] at hended
      rw [hended]
      refine ⟨fault.status, [fault.message], rfl, ?_,
        fun hnone => absurd hnone (List.cons_ne_nil _ _), fun _ => status, fun fault' he => ?_⟩
      · simp
      · obtain rfl := Except.error.inj he
        rfl
    | stops status exits =>
      rw [hended]
      exact ⟨status, [], rfl, (List.append_nil _).symm, fun _ => .inr ⟨exits, rfl⟩,
        fun hne => absurd rfl hne, fun _ he => by cases he⟩
    | succeeds going quiet =>
      rw [hended]
      refine ⟨0, [], rfl, ?_, fun _ => .inl rfl, fun hne => absurd rfl hne,
        fun _ he => by cases he⟩
      rw [quiet]
      exact (List.append_nil _).symm
    | fails _ _ refused => exact absurd h.out refused

/-- What is said about arguments that a builtin cannot read has no heading, and help is no
diagnostic. -/
theorem refuse_says (b : Builtin) (refusal : Refusal) {sh : Shell} (h : sh.streams.AcceptWrites) :
    let ended := b.refuse refusal sh
    ∃ status written, ended.1 = .ok status ∧
      ended.2.streams.err.content = sh.streams.err.content ++ written ∧
      if refusal.isError then
        status = 1 ∧ written = encode (Text.trimEnd (refusal.message b.synopsis)).line
      else status = 0 ∧ written = [] := by
  rw [refuse]
  split
  · rw [Shell.putErr_eq h]
    exact ⟨_, _, rfl, rfl, rfl, rfl⟩
  · rw [Shell.putOut_eq h]
    exact ⟨_, [], rfl, (List.append_nil _).symm, rfl, rfl⟩

end Builtin

namespace External

/-- What comes of starting the program that a name stands for: what it leaves when it has ended, or
why there is nothing of that kind. The host may be another one behind it. -/
def start (programs : Programs) (sh : Shell) (name : Text) (arguments : List Text) :
    Except Fault Outcome × Host :=
  let s := sh.session
  match sh.host.files.find? sh.host.directory (s.env.get? "PATH".toList) s.directory name with
  | none => (.error (.shell .notFound), sh.host)
  | some path =>
    match sh.streams.flush with
    | .error fault => (.error fault, sh.host)
    | .ok () =>
      match programs sh.host (call s path name arguments) with
      | .error cause => (.error (.shell (.exec cause)), sh.host)
      | .ok (.error cause, host) =>
        (.error (.within ("waiting for ".toList ++ name) (.plain cause.message)), host)
      | .ok (.ok outcome, host) => (.ok outcome, host)

end External

namespace Shell

theorem report_eq {sh : Shell} (h : sh.streams.AcceptWrites) (command message : Text) :
    sh.report command message = { sh with
      streams.err.content := sh.streams.err.content ++
        encode (sh.session.diagnostic command message).line } := by
  rw [report, complain, putErr_eq h]

/-- A name that is no builtin's stands for a program. -/
theorem run_program {name : Text} (hname : Builtin.table.find? (·.name == name) = none)
    (arguments : List Text) (sh : Shell) :
    sh.run (defaultFactories programs) name arguments =
      match External.start programs sh name arguments with
      | (.error fault, host) => (fault.status, ({ sh with host } : Shell).report name fault.message)
      | (.ok outcome, host) =>
        match External.copy outcome { sh with host } with
        | (.ok status, sh) => (status, sh)
        | (.error fault, sh) => (fault.status, sh.report name fault.message) := by
  have hbuiltin : Builtin.factory sh name arguments = none := by rw [Builtin.factory, hname]; rfl
  have hmade : ((defaultFactories programs).findSome? fun factory => factory sh name arguments) =
      External.factory programs sh name arguments := by
    rw [defaultFactories, List.findSome?_cons, hbuiltin, List.findSome?_singleton]
  rw [run, hmade, External.factory, External.start]
  cases sh.host.files.find? sh.host.directory (sh.session.env.get? "PATH".toList)
      sh.session.directory name with
  | none => rfl
  | some path =>
    dsimp only [Option.map_some]
    rw [External.run]
    cases sh.streams.flush with
    | error fault => rfl
    | ok =>
      dsimp only
      rcases programs sh.host (External.call sh.session path name arguments) with
        cause | ⟨cause | outcome, host⟩
      · rfl
      · rfl
      · rfl

/-- With streams that take what they are given, what a program has written to its error stream is
copied, and nothing is added. -/
theorem err_of_program (outcome : Outcome) {sh : Shell} (h : sh.streams.AcceptWrites) :
    ∃ left, External.copy outcome sh = (.ok outcome.ending.status, left) ∧
      left.streams.err.content = sh.streams.err.content ++ outcome.err := by
  have hout : ({ sh with streams.out.content := sh.streams.out.content ++ outcome.out } :
      Shell).streams.AcceptWrites := ⟨⟨h.out.failures, h.out.accepts⟩, h.err⟩
  rw [External.copy, putOut_eq h]
  dsimp only
  rw [putErr_eq hout]
  exact ⟨_, rfl, rfl⟩

/-- Where a program cannot be started or waited for, one diagnostic says why. What a program that
has ended has written is copied. -/
theorem program_says {name : Text} (hname : Builtin.table.find? (·.name == name) = none)
    (arguments : List Text) {sh : Shell} (h : sh.streams.AcceptWrites) :
    let ended := sh.run (defaultFactories programs) name arguments
    ∃ written, ended.2.streams.err.content = sh.streams.err.content ++ written ∧
      match (External.start programs sh name arguments).1 with
      | .error fault => ended.1 = fault.status ∧ sh.session.Says name [fault.message] written
      | .ok outcome => ended.1 = outcome.ending.status ∧ written = outcome.err := by
  rw [run_program hname]
  obtain ⟨fault | outcome, host⟩ := External.start programs sh name arguments
  · have hhost : ({ sh with host } : Shell).streams.AcceptWrites := h
    dsimp only
    rw [report_eq hhost]
    refine ⟨_, rfl, rfl, ?_⟩
    simpa using sh.session.says name [fault.message]
  · have hhost : ({ sh with host } : Shell).streams.AcceptWrites := h
    obtain ⟨left, hran, herr⟩ := err_of_program outcome hhost
    dsimp only
    rw [hran]
    exact ⟨outcome.err, herr, rfl, rfl⟩

/-- What is on the error stream when a command has been run: what a program has written, or
diagnostics, each with its heading. One is written wherever a program is not found or cannot be
started or waited for, and wherever a builtin that is run fails. What is said about arguments that a
builtin cannot read is the exception: it is written without a heading. -/
theorem run_says {sh : Shell} (h : sh.streams.AcceptWrites) (name : Text)
    (arguments : List Text) :
    let s := sh.session
    let ended := sh.run (defaultFactories programs) name arguments
    ∃ written, ended.2.streams.err.content = sh.streams.err.content ++ written ∧
      match Builtin.table.find? (·.name == name) with
      | none =>
        match (External.start programs sh name arguments).1 with
        | .error fault => ended.1 = fault.status ∧ s.Says name [fault.message] written
        | .ok outcome => ended.1 = outcome.ending.status ∧ written = outcome.err
      | some b =>
        match b.parse arguments with
        | .error refusal =>
          if refusal.isError then
            ended.1 = 1 ∧ written = encode (Text.trimEnd (refusal.message b.synopsis)).line
          else ended.1 = 0 ∧ written = []
        | .ok given =>
          ∃ messages, s.Says name messages written ∧
            (messages = [] → ended.1 = 0 ∨
              (name = Builtin.exit.name ∧ ended.2.session.exitRequest = some ended.1)) ∧
            (messages ≠ [] → ended.1 = b.usageStatus) ∧
            ∀ fault, (b.execute given.operands sh).1 = .error fault →
              messages = [fault.message] := by
  intro s ended
  cases hname : Builtin.table.find? (·.name == name) with
  | none => exact program_says hname arguments h
  | some b =>
    have hb := List.mem_of_find?_eq_some hname
    obtain rfl : b.name = name := by simpa using List.find?_some hname
    have hended : ended = sh.run (defaultFactories programs) b.name arguments := rfl
    rw [run, findSome?_builtin sh hname] at hended
    dsimp only at hended ⊢
    cases hparse : b.parse arguments with
    | error refusal =>
      have hrefuse : b.command arguments sh = b.refuse refusal sh := by rw [Builtin.command, hparse]
      obtain ⟨status, written, hstatus, htext, hsays⟩ := Builtin.refuse_says b refusal h
      rw [hrefuse] at hended
      generalize b.refuse refusal sh = result at hended hstatus htext
      obtain ⟨_, left⟩ := result
      obtain rfl := hstatus
      rw [hended]
      exact ⟨written, htext, hsays⟩
    | ok given =>
      obtain ⟨status, messages, hstatus, htext, hnone, hsome, hfault⟩ :=
        Builtin.command_says hb hparse h
      generalize b.command arguments sh = result at hended hstatus htext hnone
      obtain ⟨_, left⟩ := result
      obtain rfl := hstatus
      rw [hended]
      exact ⟨_, htext, messages, s.says b.name messages, hnone, hsome, hfault⟩

/-- Two requests are rejected, and each has a diagnostic. -/
theorem run_says_alias :
    let sh : Shell := { session := { name := "hsh".toList, lineCount := 7 } }
    let ended := sh.run (defaultFactories .echo) "alias".toList ["nope".toList, "=v".toList]
    ended.1 = 1 ∧ encode "hsh: 7: alias: ".toList <+: ended.2.streams.err.content ∧
      ended.2.streams.err.text =
        "hsh: 7: alias: nope not found\nhsh: 7: alias: invalid alias name\n".toList := by
  intro sh ended
  have haccept : sh.streams.AcceptWrites := ⟨⟨rfl, rfl⟩, ⟨rfl, rfl⟩⟩
  have hstatus : ended.1 = 1 := by decide +kernel
  obtain ⟨written, hwritten, hsays⟩ : ∃ written,
      ended.2.streams.err.content = sh.streams.err.content ++ written ∧ _ :=
    run_says haccept "alias".toList ["nope".toList, "=v".toList]
  have hname : Builtin.table.find? (·.name == "alias".toList) = some Builtin.aliases := rfl
  have hparse := Builtin.parse_literal (b := Builtin.aliases) rfl rfl ["nope".toList, "=v".toList]
  rw [hname] at hsays
  dsimp only at hsays
  rw [hparse] at hsays
  obtain ⟨messages, hmessages, hnone, -⟩ := hsays
  refine ⟨hstatus, ?_, by decide +kernel⟩
  have herr : ended.2.streams.err.content = written := hwritten
  have hheading : "hsh: 7: alias: ".toList = sh.session.name ++ ": ".toList ++
      Text.decimal sh.session.lineCount.toNat ++ ": ".toList ++ "alias".toList ++ ": ".toList := by
    decide +kernel
  rw [herr, hheading]
  refine hmessages.heading fun he => ?_
  rcases hnone he with hzero | ⟨hexit, -⟩
  · exact absurd (hstatus.symm.trans hzero) (by decide)
  · exact absurd hexit (by decide)

/-- What is said about an argument that is not expected does not say which command it is for. -/
theorem run_says_bare :
    let sh : Shell := { session := { name := "hsh".toList } }
    let ended := sh.run (defaultFactories .echo) "env".toList ["x".toList]
    sh.streams.AcceptWrites ∧ ended.1 = 1 ∧
      ended.2.streams.err.text = "Unrecognized argument: x\n".toList ∧
      ¬ "hsh: 0: env: ".toList <+: ended.2.streams.err.text := by
  refine ⟨⟨⟨rfl, rfl⟩, ⟨rfl, rfl⟩⟩, ?_, ?_, ?_⟩
  · decide +kernel
  · decide +kernel
  · decide +kernel

end Shell
end LineShell
