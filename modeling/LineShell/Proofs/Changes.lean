import LineShell.Intake
import LineShell.Proofs.Arguments
import LineShell.Proofs.Comments
import LineShell.Proofs.Grouping
import LineShell.Proofs.Lines
import LineShell.Text.Utf8.Ascii
import Mathlib.Logic.Relation

/-!
What commands do to a session. Every command of the shell makes changes of six kinds only, whatever
it ends with, so what those changes keep is kept by every line, stream and descriptor that is run.
-/
namespace LineShell

variable {programs : Programs}

/-- A change that one step of a command makes to a session, given the arguments of the command. -/
inductive Session.Change (arguments : List Text) (s : Session) : Session → Prop
  | stop (status : Status) : Change arguments s { s with exitRequest := some status }
  | move (there : Path) : Change arguments s (s.moveTo there)
  | setVariable (name value : Text) (valid : Builtin.isVariableName name) :
      Change arguments s { s with env := s.env.set name value }
  | unsetVariable (name : Text) : Change arguments s { s with env := s.env.unset name }
  /-- The name stands in front of the first `=` of an argument. -/
  | setAlias (operand name rest value : Text) (given : operand ∈ arguments)
      (parted : Text.cut? '=' operand = some (name, rest)) (named : name ≠ [])
      (valued : value ≠ []) :
      Change arguments s { s with aliases := s.aliases.set name value }
  | unsetAlias (name : Text) : Change arguments s { s with aliases := s.aliases.unset name }

abbrev Session.Changes (arguments : List Text) : Session → Session → Prop :=
  Relation.ReflTransGen (Session.Change arguments)

namespace Shell

/-- What a write to the output ends with: it succeeds if the stream takes it all. -/
theorem putOut_eq_ite (bytes : Bytes) (status : Status) (sh : Shell) :
    putOut bytes status sh =
      (if sh.streams.out.takes bytes then .ok status else .error (.plain "sink failed".toList),
        { sh with streams.out := sh.streams.out.after bytes }) := by
  unfold putOut Sink.write
  split_ifs <;> rfl

theorem putErr_eq_ite (bytes : Bytes) (status : Status) (sh : Shell) :
    putErr bytes status sh =
      (if sh.streams.err.takes bytes then .ok status else .error (.plain "sink failed".toList),
        { sh with streams.err := sh.streams.err.after bytes }) := by
  unfold putErr Sink.write
  split_ifs <;> rfl

/-- Writing one text behind another is writing both, up to where that fails. -/
theorem putOut_append (a b : Bytes) (status : Status) (sh : Shell) :
    putOut (a ++ b) status sh =
      match putOut a 0 sh with
      | (.ok _, sh) => putOut b status sh
      | (.error fault, sh) => (.error fault, sh) := by
  rw [putOut_eq_ite, putOut_eq_ite a, Sink.takes_append]
  by_cases h : sh.streams.out.takes a = true
  · rw [if_pos h, Sink.after_append h, h, Bool.true_and]
    dsimp only
    rw [putOut_eq_ite]
  · rw [if_neg h, Sink.after_append_of_not_takes h, Bool.eq_false_iff.2 h, Bool.false_and]
    rfl

/-- Lines that are printed one by one are printed as one text. -/
theorem printLines_eq (lines : List Text) (sh : Shell) :
    printLines lines sh = print (lines.flatMap Text.line) sh := by
  induction lines generalizing sh with
  | nil =>
    rw [List.flatMap_nil, print, show Utf8.encode [] = [] from rfl, putOut_eq_ite, Sink.takes_nil,
      Sink.after_nil]
    rfl
  | cons t rest ih =>
    rw [List.flatMap_cons, printLines, print, print, Utf8.encode_append, putOut_append]
    rcases putOut (Utf8.encode t.line) 0 sh with ⟨fault | _, left⟩
    · rfl
    · exact ih left

@[simp] theorem session_putOut (bytes : Bytes) (status : Status) (sh : Shell) :
    (putOut bytes status sh).2.session = sh.session := by
  rw [putOut_eq_ite]

@[simp] theorem session_putErr (bytes : Bytes) (status : Status) (sh : Shell) :
    (putErr bytes status sh).2.session = sh.session := by
  rw [putErr_eq_ite]

@[simp] theorem session_print (t : Text) (sh : Shell) : (print t sh).2.session = sh.session :=
  session_putOut _ _ sh

@[simp] theorem session_printLines (lines : List Text) (sh : Shell) :
    (printLines lines sh).2.session = sh.session := by
  rw [printLines_eq, session_print]

@[simp] theorem session_complain (command message : Text) (status : Status) (sh : Shell) :
    (complain command message status sh).2.session = sh.session := session_putErr _ _ sh

@[simp] theorem session_report (sh : Shell) (command message : Text) :
    (sh.report command message).session = sh.session := by
  unfold report
  have h := session_complain command message 0 sh
  split
  next hc => rw [← h, hc]
  next hc => rw [← h, hc]

end Shell

namespace Builtin

open Session (Change Changes)

variable (arguments : List Text)

theorem changes_print (t : Text) (sh : Shell) :
    Changes arguments sh.session (Shell.print t sh).2.session := by
  rw [Shell.session_print]

theorem changes_printLines (lines : List Text) (sh : Shell) :
    Changes arguments sh.session (Shell.printLines lines sh).2.session := by
  rw [Shell.session_printLines]

theorem changes_runExit (operands : List Text) (sh : Shell) :
    Changes arguments sh.session (runExit operands sh).2.session := by
  unfold runExit
  split
  · exact .single (.stop _)
  · split
    · exact .single (.stop _)
    · exact .refl

theorem changes_moveTo (target : Text) {andThen : Command}
    (h : ∀ sh, (andThen sh).2.session = sh.session) (sh : Shell) :
    Changes arguments sh.session (moveTo target andThen sh).2.session := by
  unfold moveTo
  split
  · exact .refl
  next there _ =>
    rw [h]
    exact .single (.move there)

theorem changes_runCd (operands : List Text) (sh : Shell) :
    Changes arguments sh.session (runCd operands sh).2.session := by
  unfold runCd
  split
  · exact .refl
  · exact changes_print arguments _ sh
  · exact changes_moveTo arguments _ (fun _ => rfl) sh
  · exact changes_moveTo arguments _ (fun sh => Shell.session_print _ sh) sh

theorem changes_runSetenv (operands : List Text) (sh : Shell) :
    Changes arguments sh.session (runSetenv operands sh).2.session := by
  unfold runSetenv
  split
  · split
    next hvalid => exact .single (.setVariable _ _ hvalid)
    · exact .refl
  · exact .refl

theorem changes_foldl_unset (names : List Text) (s : Session) :
    Changes arguments s { s with env := names.foldl Bindings.unset s.env } := by
  induction names generalizing s with
  | nil => exact .refl
  | cons name names ih => exact .head (.unsetVariable name) (ih { s with env := s.env.unset name })

theorem changes_runUnsetenv (names : List Text) (sh : Shell) :
    Changes arguments sh.session (runUnsetenv names sh).2.session := by
  unfold runUnsetenv
  split
  · exact .refl
  · exact changes_foldl_unset arguments _ sh.session

theorem changes_runHelp (operands : List Text) (sh : Shell) :
    Changes arguments sh.session (runHelp operands sh).2.session := by
  unfold runHelp
  split
  · exact changes_printLines arguments _ sh
  · split
    · exact changes_print arguments _ sh
    · exact .refl

/-! ### Requests to `alias` -/

/-- What is defined has its name from an operand. -/
theorem operand_of_define {operands : List Text} {name value : Text}
    (h : .define name value ∈ aliasRequests operands) :
    ∃ operand ∈ operands, ∃ rest, Text.cut? '=' operand = some (name, rest) := by
  obtain ⟨d, rfl, rfl, hoperands⟩ := exists_definition h
  exact ⟨d.first, hoperands List.mem_cons_self, d.start,
    Text.cut?_eq_some_iff.2 ⟨rfl, d.plainName⟩⟩

/-- The aliases when a request has been carried out. One that is rejected leaves them as they are,
and so does one to show an alias. -/
def AliasRequest.carryOut (aliases : Bindings) : AliasRequest → Bindings
  | .define [] _ | .query _ => aliases
  | .define name [] => aliases.unset name
  | .define name value => aliases.set name value

/-- The session when requests have been carried out. -/
def carryOut (s : Session) (requests : List AliasRequest) : Session :=
  { s with aliases := requests.foldl AliasRequest.carryOut s.aliases }

/-- Showing an alias and rejecting a request change nothing, whether or not they can be written. -/
theorem session_runRequest (request : AliasRequest) (sh : Shell) :
    (runRequest request sh).2.session =
      { sh.session with aliases := request.carryOut sh.session.aliases } := by
  cases request with
  | define name value =>
    cases name with
    | nil => exact Shell.session_complain _ _ 1 sh
    | cons c name => cases value <;> rfl
  | query name =>
    cases name with
    | nil => exact Shell.session_complain _ _ 1 sh
    | cons c name =>
      unfold runRequest
      dsimp only
      split
      · exact Shell.session_print _ sh
      · exact Shell.session_complain _ _ 1 sh

theorem AliasRequest.carryOut_define (aliases : Bindings) {name : Text} (named : name ≠ [])
    (value : Text) :
    (AliasRequest.define name value).carryOut aliases =
      if value = [] then aliases.unset name else aliases.set name value := by
  obtain ⟨c, name, rfl⟩ := List.exists_cons_of_ne_nil named
  cases value <;> rfl

/-- What definitions and removals keep is kept by requests. -/
theorem carryOut_induction {P : Bindings → Prop} {requests : List AliasRequest}
    (hset : ∀ aliases name value, .define name value ∈ requests → name ≠ [] → value ≠ [] →
      P aliases → P (aliases.set name value))
    (hunset : ∀ aliases name, .define name [] ∈ requests → P aliases → P (aliases.unset name))
    {aliases : Bindings} (h : P aliases) : P (requests.foldl AliasRequest.carryOut aliases) := by
  refine List.foldlRecOn requests _ h fun aliases h request hm => ?_
  cases request with
  | query name => exact h
  | define name value =>
    cases name with
    | nil => exact h
    | cons c name =>
      cases value with
      | nil => exact hunset aliases _ hm h
      | cons d value => exact hset aliases _ _ hm (by simp) (by simp) h

theorem runRequests_cons (status : Status) (request : AliasRequest) (rest : List AliasRequest)
    (sh : Shell) :
    runRequests status (request :: rest) sh =
      match runRequest request sh with
      | (.ok ended, sh) => runRequests (if ended = 0 then status else ended) rest sh
      | (.error fault, sh) => (.error fault, sh) := by
  rw [runRequests]
  rcases runRequest request sh with ⟨fault | ended, left⟩
  · rfl
  · by_cases hended : ended = 0
    · rw [hended]
      rfl
    · simp only [if_neg hended]
      split
      next he => exact absurd (Except.ok.inj (Prod.mk.inj he).1) hended
      next he =>
        obtain ⟨hended, rfl⟩ := Prod.mk.inj he
        rw [Except.ok.inj hended]
      next he => simp at he

/-- Requests are carried out in order, up to one whose answer cannot be written. -/
theorem exists_carryOut (status : Status) (requests : List AliasRequest) (sh : Shell) :
    ∃ front, front <+: requests ∧
      (runRequests status requests sh).2.session = carryOut sh.session front := by
  induction requests generalizing status sh with
  | nil => exact ⟨[], List.prefix_rfl, rfl⟩
  | cons request rest ih =>
    have hfirst := session_runRequest request sh
    rw [runRequests_cons]
    split
    next left hran =>
      obtain ⟨front, hfront, hsession⟩ := ih _ left
      rw [hran] at hfirst
      refine ⟨request :: front, (List.prefix_cons_inj request).2 hfront, ?_⟩
      rw [hsession, show left.session = _ from hfirst]
      rfl
    next left hran =>
      rw [hran] at hfirst
      exact ⟨[request], (List.prefix_cons_inj request).2 List.nil_prefix, hfirst⟩

theorem exists_carryOut_runAlias (operands : List Text) (sh : Shell) :
    ∃ front, front <+: aliasRequests operands ∧
      (runAlias operands sh).2.session = carryOut sh.session front := by
  unfold runAlias
  split
  · exact ⟨[], List.nil_prefix, Shell.session_printLines _ sh⟩
  · exact exists_carryOut 0 _ sh

theorem changes_runAlias (sh : Shell) :
    Changes arguments sh.session (runAlias arguments sh).2.session := by
  obtain ⟨front, hfront, hsession⟩ := exists_carryOut_runAlias arguments sh
  let P (aliases : Bindings) : Prop := Changes arguments sh.session { sh.session with aliases }
  rw [hsession]
  refine carryOut_induction (P := P) (fun aliases name value hm named valued h => ?_)
    (fun aliases name _ h => h.tail (.unsetAlias name)) .refl
  obtain ⟨operand, hoperand, rest, hcut⟩ := operand_of_define (hfront.mem hm)
  exact h.tail (.setAlias operand name rest value hoperand hcut named valued)

/-- Neither refusing the arguments nor reporting a fault changes a session. -/
theorem session_command {P : Session → Prop} (b : Builtin) (sh : Shell) (hstart : P sh.session)
    (h : ∀ given, b.parse arguments = .ok given → P (b.execute given.operands sh).2.session) :
    P (b.command arguments sh).2.session := by
  unfold command
  split
  · unfold refuse
    split
    · rwa [Shell.session_putErr]
    · rwa [Shell.session_putOut]
  next given hgiven =>
    have hexec := h given hgiven
    split
    next hran =>
      rw [hran] at hexec
      exact hexec
    next hran =>
      rw [hran] at hexec
      rwa [Shell.session_complain]

theorem changes_of_mem_table {b : Builtin} (hb : b ∈ table) (sh : Shell) :
    Changes arguments sh.session (b.command arguments sh).2.session := by
  refine session_command arguments b sh .refl fun given hgiven => ?_
  simp only [table, List.mem_cons, List.not_mem_nil, or_false] at hb
  rcases hb with rfl | rfl | rfl | rfl | rfl | rfl | rfl | rfl
  · exact changes_runExit arguments _ sh
  · exact changes_runCd arguments _ sh
  · exact changes_printLines arguments _ sh
  · exact changes_runSetenv arguments _ sh
  · exact changes_runUnsetenv arguments _ sh
  · exact changes_runHelp arguments _ sh
  · exact changes_printLines arguments _ sh
  · -- The operands of `alias` are its arguments themselves, and so have the names set in front.
    rw [parse_literal rfl rfl] at hgiven
    obtain rfl := Except.ok.inj hgiven
    exact changes_runAlias arguments sh

end Builtin

open Session (Change Changes)

@[simp] theorem External.session_copy (outcome : Outcome) (sh : Shell) :
    (copy outcome sh).2.session = sh.session := by
  have hout := Shell.session_putOut outcome.out 0 sh
  unfold copy
  split
  next hput => rw [← hout, hput]
  next hput => rw [Shell.session_putErr, ← hout, hput]

/-- A program has no hand in the session. -/
theorem External.session_run (path : Path) (name : Text) (arguments : List Text) (sh : Shell) :
    (run programs path name arguments sh).2.session = sh.session := by
  unfold run
  split
  · rfl
  split
  · rfl
  · rfl
  · rw [session_copy]

namespace Shell

/-- A command of the shell is a builtin of its name, or a program. -/
theorem eq_of_factory {name : Text} {arguments : List Text} {command : Command} {sh : Shell}
    (h : ((defaultFactories programs).findSome? fun factory => factory sh name arguments) =
      some command) :
    (∃ b ∈ Builtin.table, b.name = name ∧ command = b.command arguments) ∨
      ∃ path, command = External.run programs path name arguments := by
  obtain ⟨factory, hm, hmade⟩ := List.exists_of_findSome?_eq_some h
  simp only [defaultFactories, List.mem_cons, List.not_mem_nil, or_false] at hm
  rcases hm with rfl | rfl
  · obtain ⟨b, hb, rfl⟩ := Option.map_eq_some_iff.1 hmade
    exact .inl ⟨b, List.mem_of_find?_eq_some hb, by simpa using List.find?_some hb, rfl⟩
  · obtain ⟨path, -, rfl⟩ := Option.map_eq_some_iff.1 hmade
    exact .inr ⟨path, rfl⟩

theorem changes_of_factory {name : Text} {arguments : List Text} {command : Command} {sh : Shell}
    (h : ((defaultFactories programs).findSome? fun factory => factory sh name arguments) =
      some command)
    (sh' : Shell) : Changes arguments sh'.session (command sh').2.session := by
  obtain ⟨b, hb, -, rfl⟩ | ⟨path, rfl⟩ := eq_of_factory h
  · exact Builtin.changes_of_mem_table arguments hb sh'
  · rw [External.session_run]

/-- Nor does it change a session that a command is not found, or that its fault is reported. -/
theorem session_run {P : Session → Prop} {factories : List Factory} {name : Text}
    {arguments : List Text} (sh : Shell) (hstart : P sh.session)
    (h : ∀ command, (factories.findSome? fun factory => factory sh name arguments) = some command →
      P (command sh).2.session) :
    P (sh.run factories name arguments).2.session := by
  unfold run
  split
  · rwa [session_report]
  next command hcommand =>
    have hmade := h command hcommand
    split
    next hran =>
      rw [hran] at hmade
      exact hmade
    next hran =>
      rw [hran] at hmade
      rwa [session_report]

theorem changes_run (name : Text) (arguments : List Text) (sh : Shell) :
    Changes arguments sh.session (sh.run (defaultFactories programs) name arguments).2.session :=
  session_run sh .refl fun _ hcommand => changes_of_factory hcommand sh

end Shell

/-! ### Whole runs -/

namespace Reader

theorem newline_not_mem_lineText (line : Bytes) : '\n' ∉ lineText line := by
  refine Text.not_mem_stripComment (Utf8.newline_not_mem_decode fun b hb => ?_)
  simpa using List.mem_takeWhile_imp hb

theorem newline_not_mem_of_mem_byteLines {bytes line : Bytes} (h : line ∈ byteLines bytes) :
    ∀ b ∈ line, (b == 0x0A) = false := by
  unfold byteLines at h
  dsimp only at h
  split at h
  · exact not_of_mem_splitWhere (List.dropLast_subset _ h)
  · exact not_of_mem_splitWhere h

theorem newline_not_mem_of_mem_lines {r : Reader} {line : Text} (h : line ∈ r.lines) :
    '\n' ∉ line := by
  rw [lines_eq] at h
  obtain ⟨bytes, hm, rfl⟩ := List.mem_map.1 h
  exact Text.not_mem_stripComment
    (Utf8.newline_not_mem_decode (newline_not_mem_of_mem_byteLines hm))

end Reader

theorem Shell.session_takeLine (descriptor limit : Nat) (read : Bytes) (sh : Shell) :
    (takeLine descriptor limit read sh).2.session = sh.session := by
  induction limit generalizing read sh with
  | zero => rfl
  | succ limit ih =>
    unfold takeLine
    dsimp only
    split
    · rfl
    · split
      · rfl
      · rfl
      · exact ih _ _

/-- What no part of a run takes away: neither the changes that commands make, whose arguments are
words, nor remembering a status, nor entering a line. -/
structure Session.Invariant (P : Session → Prop) : Prop where
  change {arguments : List Text} {s s' : Session} :
    (∀ argument ∈ arguments, ∀ c ∈ argument, isBlank c = false) → P s → s.Change arguments s' → P s'
  status {s : Session} (status : Status) : P s → P { s with lastStatus := status }
  enter {sh : Shell} {line : Text} : '\n' ∉ line → P sh.session → P (sh.enter line).session

namespace Session.Invariant

variable {P : Session → Prop} (inv : Invariant P)
include inv

theorem changes {arguments : List Text}
    (hwords : ∀ argument ∈ arguments, ∀ c ∈ argument, isBlank c = false) {s s' : Session}
    (h : s.Changes arguments s') (hs : P s) : P s' := by
  induction h with
  | refl => exact hs
  | tail _ hstep ih => exact inv.change hwords ih hstep

theorem runSegment (text : Text) {sh : Shell} (h : P sh.session) :
    P (sh.runSegment (defaultFactories programs) text).2.session := by
  unfold Shell.runSegment
  split
  · exact h
  next name arguments hargv =>
    have hwords : ∀ argument ∈ arguments, ∀ c ∈ argument, isBlank c = false := by
      intro argument hm
      have hw : argument ∈ sh.session.argv text := hargv ▸ List.mem_cons_of_mem _ hm
      exact (Text.mem_words hw).2
    exact inv.status _ (inv.changes hwords (Shell.changes_run name arguments sh) h)

theorem runSegments (segments : List Segment) {sh : Shell} (h : P sh.session) :
    P (Shell.runSegments (defaultFactories programs) segments sh).session := by
  induction segments generalizing sh with
  | nil => exact h
  | cons segment rest ih =>
    unfold Shell.runSegments
    split
    · exact h
    · split
      · exact ih (inv.runSegment segment.text h)
      · exact ih h

theorem runLine (line : Text) {sh : Shell} (h : P sh.session) :
    P (sh.runLine (defaultFactories programs) line).session := inv.runSegments _ h

theorem accept {line : Text} (hline : '\n' ∉ line) {sh : Shell} (h : P sh.session) :
    P (sh.accept (defaultFactories programs) line).session := inv.runLine line (inv.enter hline h)

theorem acceptAll {lines : List Text} (hlines : ∀ line ∈ lines, '\n' ∉ line) {sh : Shell}
    (h : P sh.session) : P (Shell.acceptAll (defaultFactories programs) lines sh).session := by
  induction lines generalizing sh with
  | nil => exact h
  | cons line rest ih =>
    obtain ⟨hline, hrest⟩ := List.forall_mem_cons.1 hlines
    unfold Shell.acceptAll
    split
    · exact h
    · exact ih hrest (inv.accept hline h)

theorem repl (r : Reader) {sh : Shell} (h : P sh.session) :
    P (sh.repl (defaultFactories programs) r).session := by
  rw [Shell.repl_eq_acceptAll]
  exact inv.acceptAll (fun _ hm => Reader.newline_not_mem_of_mem_lines hm) h

theorem replFrom (descriptor limit : Nat) (read : Bytes) {sh : Shell} (h : P sh.session) :
    P (Shell.replFrom (defaultFactories programs) descriptor limit read sh).session := by
  induction limit generalizing read sh with
  | zero => exact h
  | succ limit ih =>
    have htake := Shell.session_takeLine descriptor Activity.readLimit read sh
    unfold Shell.replFrom
    split
    · exact h
    · rw [← htake] at h
      split
      next ht =>
        rw [ht] at h
        exact h
      next ht =>
        rw [ht] at h
        exact h
      next ht =>
        rw [ht] at h
        exact ih _ (inv.accept (Reader.newline_not_mem_lineText _) h)

end Session.Invariant
end LineShell
