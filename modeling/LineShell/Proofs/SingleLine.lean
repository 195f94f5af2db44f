import LineShell.Proofs.Expansion
import LineShell.Proofs.Record

/-!
A single line, given as an argument or read from a stream. The stream adds an entry to the history,
and only `history` looks at it: nothing else that a line does can tell the two apart.
-/
namespace LineShell

variable {programs : Programs}

namespace Shell

/-- The shell with another history, and with other text written to its output. -/
def recast (sh : Shell) (history : History) (written : Bytes) : Shell :=
  { sh with
    session := { sh.session with history }
    streams := { sh.streams with out := { sh.streams.out with content := written } } }

/-- Shells that are alike but for the history, and unless `same` holds, for what has been written to
an output that takes all that it is given. -/
inductive Alike (same : Prop) (sh : Shell) : Shell → Prop
  | recast (history : History) (written : Bytes)
      (unchanged : same → written = sh.streams.out.content)
      (accepting : same ∨ sh.streams.out.TakesAll) :
      Alike same sh (sh.recast history written)

end Shell

/-- Results that end in the same way, and leave shells that are alike. -/
inductive Result.Alike (same : Prop) : Result → Result → Prop
  | ends (ending : Except Fault Status) {sh sh' : Shell} (left : sh.Alike same sh') :
      Alike same (ending, sh) (ending, sh')

/-- A command that cannot tell shells apart that are alike. -/
def Command.Blind (same : Prop) (command : Command) : Prop :=
  ∀ {sh sh' : Shell}, sh.Alike same sh' → Result.Alike same (command sh) (command sh')

section Blind

variable {same : Prop}

namespace Shell

theorem blind_putOut (bytes : Bytes) (status : Status) :
    Command.Blind same (putOut bytes status) := by
  rintro sh _ ⟨history, written, hsame, hopen⟩
  rw [putOut_eq_ite, putOut_eq_ite]
  rcases hopen with h | htakes
  · -- Outputs that are the same are still so when the same has been written to them.
    obtain rfl := hsame h
    exact .ends _ (.recast history _ (fun _ => rfl) (.inl h))
  · have htakes' : (sh.recast history written).streams.out.TakesAll :=
      ⟨htakes.failures, htakes.accepts⟩
    rw [htakes.takes, htakes'.takes, htakes.after_eq, htakes'.after_eq]
    exact .ends _
      (.recast history (written ++ bytes) (fun h => by rw [hsame h]) (.inr ⟨htakes.1, htakes.2⟩))

theorem blind_printLines (lines : List Text) : Command.Blind same (printLines lines) := by
  intro sh sh' h
  rw [printLines_eq, printLines_eq]
  exact blind_putOut _ 0 h

theorem blind_putErr (bytes : Bytes) (status : Status) :
    Command.Blind same (putErr bytes status) := by
  rintro sh _ ⟨history, written, hsame, hopen⟩
  rw [putErr_eq_ite, putErr_eq_ite]
  exact .ends _ (.recast history written hsame hopen)

theorem blind_complain (command message : Text) (status : Status) :
    Command.Blind same (complain command message status) := by
  rintro sh _ ⟨history, written, hsame, hopen⟩
  exact blind_putErr _ status (.recast history written hsame hopen)

theorem Alike.report {sh sh' : Shell} (h : sh.Alike same sh') (command message : Text) :
    (sh.report command message).Alike same (sh'.report command message) := by
  have hran := blind_complain command message 0 h
  unfold Shell.report
  generalize complain command message 0 sh = result,
    complain command message 0 sh' = result' at hran
  obtain ⟨ending, left⟩ := hran
  cases ending with
  | ok status => exact left
  | error fault =>
    obtain ⟨history, written, hsame, hopen⟩ := left
    exact .recast history written hsame hopen

end Shell

namespace Builtin

theorem blind_runExit (operands : List Text) : Command.Blind same (runExit operands) := by
  rintro sh _ ⟨history, written, hsame, hopen⟩
  unfold runExit
  cases operands with
  | nil => exact .ends _ (.recast history written hsame hopen)
  | cons t _ =>
    dsimp only
    cases status? t with
    | none => exact .ends _ (.recast history written hsame hopen)
    | some status => exact .ends _ (.recast history written hsame hopen)

theorem blind_moveTo (target : Text) {andThen : Command} (h : Command.Blind same andThen) :
    Command.Blind same (moveTo target andThen) := by
  rintro sh _ ⟨history, written, hsame, hopen⟩
  have hthere : (sh.recast history written).canonical? target = sh.canonical? target := rfl
  unfold moveTo
  rw [hthere]
  cases sh.canonical? target with
  | none => exact .ends _ (.recast history written hsame hopen)
  | some there => exact h (.recast history written hsame hopen)

theorem blind_printDirectory : Command.Blind same printDirectory := by
  rintro sh _ ⟨history, written, hsame, hopen⟩
  exact Shell.blind_putOut _ 0 (.recast history written hsame hopen)

theorem blind_runCd (operands : List Text) : Command.Blind same (runCd operands) := by
  rintro sh _ ⟨history, written, hsame, hopen⟩
  have hwhere : destination (sh.recast history written).session operands =
      destination sh.session operands := rfl
  unfold runCd
  rw [hwhere]
  cases destination sh.session operands with
  | noHome => exact .ends _ (.recast history written hsame hopen)
  | stay => exact blind_printDirectory (.recast history written hsame hopen)
  | target t =>
    have hstop : Command.Blind same fun sh => (.ok 0, sh) := fun left => .ends _ left
    exact blind_moveTo t hstop (.recast history written hsame hopen)
  | previous t => exact blind_moveTo t blind_printDirectory (.recast history written hsame hopen)

theorem blind_runEnv (operands : List Text) : Command.Blind same (runEnv operands) := by
  rintro sh _ ⟨history, written, hsame, hopen⟩
  exact Shell.blind_printLines _ (.recast history written hsame hopen)

theorem blind_runSetenv (operands : List Text) : Command.Blind same (runSetenv operands) := by
  rintro sh _ ⟨history, written, hsame, hopen⟩
  unfold runSetenv
  split
  · split
    · exact .ends _ (.recast history written hsame hopen)
    · exact .ends _ (.recast history written hsame hopen)
  · exact .ends _ (.recast history written hsame hopen)

theorem blind_runUnsetenv (names : List Text) : Command.Blind same (runUnsetenv names) := by
  rintro sh _ ⟨history, written, hsame, hopen⟩
  cases names with
  | nil => exact .ends _ (.recast history written hsame hopen)
  | cons name names => exact .ends _ (.recast history written hsame hopen)

theorem blind_runHelp (operands : List Text) : Command.Blind same (runHelp operands) := by
  intro sh sh' h
  unfold runHelp
  split
  · exact Shell.blind_printLines _ h
  · split
    · exact Shell.blind_putOut _ 0 h
    · exact .ends _ h

/-- What is listed differs, and that can be seen in the output alone. -/
theorem blind_runHistory (hdiffer : ¬ same) (operands : List Text) :
    Command.Blind same (runHistory operands) := by
  rintro sh _ ⟨history, written, -, hopen⟩
  have htakes : sh.streams.out.TakesAll := hopen.resolve_left hdiffer
  have htakes' : (sh.recast history written).streams.out.TakesAll :=
    ⟨htakes.failures, htakes.accepts⟩
  unfold runHistory
  rw [Shell.printLines_eq, Shell.printLines_eq, Shell.print, Shell.print, Shell.putOut_eq_ite,
    Shell.putOut_eq_ite, htakes.takes, htakes'.takes, htakes.after_eq, htakes'.after_eq]
  exact .ends _
    (.recast history _ (fun h => absurd h hdiffer) (.inr ⟨htakes.failures, htakes.accepts⟩))

theorem blind_runRequest (request : AliasRequest) : Command.Blind same (runRequest request) := by
  rintro sh _ ⟨history, written, hsame, hopen⟩
  unfold runRequest
  split
  · exact Shell.blind_complain _ _ 1 (.recast history written hsame hopen)
  · exact Shell.blind_complain _ _ 1 (.recast history written hsame hopen)
  · exact .ends _ (.recast history written hsame hopen)
  · exact .ends _ (.recast history written hsame hopen)
  next name _ =>
    have hvalue : (sh.recast history written).session.aliases.get? name =
        sh.session.aliases.get? name := rfl
    dsimp only
    rw [hvalue]
    cases sh.session.aliases.get? name with
    | some value => exact Shell.blind_putOut _ 0 (.recast history written hsame hopen)
    | none => exact Shell.blind_complain _ _ 1 (.recast history written hsame hopen)

theorem blind_runRequests (status : Status) (requests : List AliasRequest) :
    Command.Blind same (runRequests status requests) := by
  induction requests generalizing status with
  | nil => exact fun left => .ends _ left
  | cons request rest ih =>
    intro sh sh' h
    have hran := blind_runRequest request h
    rw [runRequests_cons, runRequests_cons]
    generalize runRequest request sh = result, runRequest request sh' = result' at hran
    obtain ⟨ending, left⟩ := hran
    cases ending with
    | ok ended => exact ih _ left
    | error fault => exact .ends _ left

theorem blind_runAlias (operands : List Text) : Command.Blind same (runAlias operands) := by
  rintro sh _ ⟨history, written, hsame, hopen⟩
  cases operands with
  | nil => exact Shell.blind_printLines _ (.recast history written hsame hopen)
  | cons operand operands => exact blind_runRequests 0 _ (.recast history written hsame hopen)

theorem blind_command {b : Builtin} (h : ∀ operands, Command.Blind same (b.execute operands))
    (arguments : List Text) : Command.Blind same (b.command arguments) := by
  intro sh sh' halike
  unfold command
  cases b.parse arguments with
  | error refusal =>
    dsimp only
    unfold refuse
    split
    · exact Shell.blind_putErr _ 1 halike
    · exact Shell.blind_putOut _ 0 halike
  | ok given =>
    have hran := h given.operands halike
    dsimp only
    generalize b.execute given.operands sh = result, b.execute given.operands sh' = result' at hran
    obtain ⟨ending, left⟩ := hran
    cases ending with
    | ok status => exact .ends _ left
    | error fault => exact Shell.blind_complain _ _ _ left

theorem blind_of_mem_table {b : Builtin} (hb : b ∈ table) (hname : same → b.name ≠ history.name)
    (arguments : List Text) : Command.Blind same (b.command arguments) := by
  refine blind_command (fun operands => ?_) arguments
  simp only [table, List.mem_cons, List.not_mem_nil, or_false] at hb
  rcases hb with rfl | rfl | rfl | rfl | rfl | rfl | rfl | rfl
  · exact blind_runExit operands
  · exact blind_runCd operands
  · exact blind_runEnv operands
  · exact blind_runSetenv operands
  · exact blind_runUnsetenv operands
  · exact blind_runHelp operands
  · exact blind_runHistory (fun hsame => hname hsame rfl) operands
  · exact blind_runAlias operands

end Builtin

namespace External

theorem blind_copy (outcome : Outcome) : Command.Blind same (copy outcome) := by
  intro sh sh' h
  have hput := Shell.blind_putOut outcome.out 0 h
  unfold copy
  generalize Shell.putOut outcome.out 0 sh = result,
    Shell.putOut outcome.out 0 sh' = result' at hput
  obtain ⟨ending, left⟩ := hput
  cases ending with
  | error fault => exact .ends _ left
  | ok _ => exact Shell.blind_putErr _ _ left

/-- A program is started with nothing that could tell the two apart. -/
theorem blind_run (path : Path) (name : Text) (arguments : List Text) :
    Command.Blind same (run programs path name arguments) := by
  rintro sh _ ⟨history, written, hsame, hopen⟩
  have hflush : (sh.recast history written).streams.flush = sh.streams.flush := rfl
  have hstarted : programs (sh.recast history written).host
        (call (sh.recast history written).session path name arguments) =
      programs sh.host (call sh.session path name arguments) := rfl
  unfold run
  rw [hflush, hstarted]
  cases sh.streams.flush with
  | error fault => exact .ends _ (.recast history written hsame hopen)
  | ok =>
    dsimp only
    rcases programs sh.host (call sh.session path name arguments) with cause | ⟨ended, host⟩
    · exact .ends _ (.recast history written hsame hopen)
    · have hhost : ({ sh with host } : Shell).Alike same { sh.recast history written with host } :=
        .recast history written hsame hopen
      cases ended with
      | error cause => exact .ends _ hhost
      | ok outcome => exact blind_copy outcome hhost

end External

namespace Shell

theorem Alike.session {sh sh' : Shell} (h : sh.Alike same sh') :
    sh'.session = { sh.session with history := sh'.session.history } := by
  cases h
  rfl

theorem Alike.streams {sh sh' : Shell} (h : sh.Alike True sh') : sh'.streams = sh.streams := by
  obtain ⟨history, written, hsame, -⟩ := h
  rw [Shell.recast, hsame trivial]

theorem blind_of_factory {name : Text} {arguments : List Text} {command : Command} {sh : Shell}
    (hname : same → name ≠ Builtin.history.name)
    (h : ((defaultFactories programs).findSome? fun factory => factory sh name arguments) =
      some command) :
    Command.Blind same command := by
  obtain ⟨b, hb, rfl, rfl⟩ | ⟨path, rfl⟩ := eq_of_factory h
  · exact Builtin.blind_of_mem_table hb hname arguments
  · exact External.blind_run path name arguments

theorem Alike.run {sh sh' : Shell} (h : sh.Alike same sh') {name : Text}
    (hname : same → name ≠ Builtin.history.name) (arguments : List Text) :
    (sh'.run (defaultFactories programs) name arguments).1 =
        (sh.run (defaultFactories programs) name arguments).1 ∧
      (sh.run (defaultFactories programs) name arguments).2.Alike same
        (sh'.run (defaultFactories programs) name arguments).2 := by
  have hfound : ((defaultFactories programs).findSome? fun factory => factory sh' name arguments) =
      (defaultFactories programs).findSome? fun factory => factory sh name arguments := by
    cases h
    rfl
  unfold Shell.run
  rw [hfound]
  cases hcommand :
      (defaultFactories programs).findSome? fun factory => factory sh name arguments with
  | none => exact ⟨rfl, h.report name _⟩
  | some command =>
    have hran := blind_of_factory hname hcommand h
    dsimp only
    generalize command sh = result, command sh' = result' at hran
    obtain ⟨ending, left⟩ := hran
    cases ending with
    | ok status => exact ⟨rfl, left⟩
    | error fault => exact ⟨rfl, left.report name _⟩

end Shell

theorem Session.expandVars_of_history (s : Session) (history : History) (t : Text) :
    ({ s with history } : Session).expandVars t = s.expandVars t := by
  fun_induction s.expandVars t with
  | case1 t h =>
    rw [expandVars]
    split
    · rfl
    next he => simp [h] at he
  | case2 t c rest h _ ih =>
    rw [expandVars]
    split
    next he => simp [h] at he
    next he =>
      obtain ⟨-, rfl⟩ := List.cons.inj (h.symm.trans he)
      rw [← ih]
      rfl

theorem Session.argv_of_history (s : Session) (history : History) (segment : Text) :
    ({ s with history } : Session).argv segment = s.argv segment := by
  rw [argv, argv, expandVars_of_history]

namespace Shell

def namesRun (factories : List Factory) : List Segment → Shell → List Text
  | [], _ => []
  | segment :: rest, sh =>
    if sh.session.exitRequest.isSome then []
    else if segment.gate.permits sh.session.lastStatus then
      (sh.session.argv segment.text).head?.toList ++
        namesRun factories rest (sh.runSegment factories segment.text).2
    else namesRun factories rest sh

theorem Alike.remember {sh sh' : Shell} (h : sh.Alike same sh') {status status' : Status}
    (hstatus : status' = status) :
    ({ sh with session.lastStatus := status } : Shell).Alike same
      { sh' with session.lastStatus := status' } := by
  obtain ⟨history, written, hunchanged, hopen⟩ := h
  rw [hstatus]
  exact .recast history written hunchanged hopen

theorem Alike.runSegment {sh sh' : Shell} (h : sh.Alike same sh') {text : Text}
    (hname : same → Builtin.history.name ∉ (sh.session.argv text).head?) :
    (sh.runSegment (defaultFactories programs) text).2.Alike same
      (sh'.runSegment (defaultFactories programs) text).2 := by
  have hargv : sh'.session.argv text = sh.session.argv text := by
    rw [h.session, Session.argv_of_history]
  unfold Shell.runSegment
  rw [hargv]
  cases hwords : sh.session.argv text with
  | nil => exact h
  | cons name arguments =>
    have hother : same → name ≠ Builtin.history.name := by
      rintro hsame rfl
      rw [hwords, List.head?_cons] at hname
      exact hname hsame (Option.mem_some_self _)
    obtain ⟨hstatus, hleft⟩ := h.run hother arguments
    exact hleft.remember hstatus

theorem Alike.runSegments {segments : List Segment} {sh sh' : Shell} (h : sh.Alike same sh')
    (hnames : same → Builtin.history.name ∉ namesRun (defaultFactories programs) segments sh) :
    (runSegments (defaultFactories programs) segments sh).Alike same
      (runSegments (defaultFactories programs) segments sh') := by
  induction segments generalizing sh sh' with
  | nil => exact h
  | cons segment rest ih =>
    have hexit : sh'.session.exitRequest = sh.session.exitRequest := by rw [h.session]
    have hlast : sh'.session.lastStatus = sh.session.lastStatus := by rw [h.session]
    unfold Shell.runSegments
    unfold namesRun at hnames
    rw [hexit, hlast]
    split
    next => exact h
    next hgoing =>
      rw [if_neg hgoing] at hnames
      split
      next hpermits =>
        rw [if_pos hpermits] at hnames
        have hsegment : (sh.runSegment (defaultFactories programs) segment.text).2.Alike same
            (sh'.runSegment (defaultFactories programs) segment.text).2 :=
          h.runSegment fun hsame hm =>
            hnames hsame (List.mem_append_left _ (Option.mem_toList.2 hm))
        exact ih hsegment fun hsame hm => hnames hsame (List.mem_append_right _ hm)
      next hskipped =>
        rw [if_neg hskipped] at hnames
        exact ih h hnames

end Shell
end Blind

namespace Shell

theorem finish_fst (sh : Shell) :
    sh.finish.1 = sh.session.exitRequest.getD
      (if sh.session.interactive then 0 else sh.session.lastStatus) := by
  unfold finish
  dsimp only
  split <;> rfl

theorem repl_line (factories : List Factory) {sh : Shell} (hgoing : sh.session.exitRequest = none)
    {line : Text} (hline : '\n' ∉ line) (raised : Bool) :
    sh.repl factories ⟨Utf8.encode line.line, raised⟩ = sh.accept factories line.stripComment := by
  have hlines : Reader.lines ⟨Utf8.encode line.line, raised⟩ = [line.stripComment] := by
    rw [Reader.lines_eq, Utf8.encode_line, Reader.byteLines_append_newline,
      splitWhere_of_forall (Utf8.newline_not_mem_encode hline), List.map_append, List.map_singleton,
      Reader.textOf, Utf8.decode_encode]
    rfl
  rw [repl_eq_acceptAll, hlines, acceptAll, hgoing]
  rfl

/-- A line that is read from a stream ends as one that is run by itself does, but for the history:
with the same session, status and output. Only where `history` is run can the output differ, and
only where the output does not take all that it is given can that be told from the status. -/
theorem repl_of_line {sh : Shell} (hgoing : sh.session.exitRequest = none)
    (hfirst : sh.session.lineCount = 0) {line : Text} (hline : '\n' ∉ line) (raised : Bool) :
    let start : Shell := { sh with session.lineCount := 1 }
    let alone := start.runLine (defaultFactories programs) line.stripComment
    let batch := sh.repl (defaultFactories programs) ⟨Utf8.encode line.line, raised⟩
    let recalls := Builtin.history.name ∈
      start.namesRun (defaultFactories programs) (Segment.ofLine line.stripComment)
    (¬ recalls ∨ sh.streams.out.TakesAll →
        batch.session = { alone.session with history := batch.session.history } ∧
          batch.finish.1 = alone.finish.1) ∧
      (¬ recalls → batch.streams = alone.streams) := by
  intro start alone batch recalls
  have hentered : sh.enter line.stripComment =
      start.recast (sh.session.history.enter line.stripComment) sh.streams.out.content := by
    rw [enter_eq, hfirst]
    rfl
  have hbatch : batch =
      (sh.enter line.stripComment).runLine (defaultFactories programs) line.stripComment :=
    repl_line (defaultFactories programs) hgoing hline raised
  -- Alike to the last byte where no `history` is run, and else where all output is taken.
  have halike {same : Prop} (hopen : same ∨ sh.streams.out.TakesAll)
      (hrecalls : same → ¬ recalls) : alone.Alike same batch := by
    rw [hbatch, hentered]
    exact Alike.runSegments (.recast _ _ (fun _ => rfl) hopen) hrecalls
  have hsession {same : Prop} (h : alone.Alike same batch) :
      batch.session = { alone.session with history := batch.session.history } ∧
        batch.finish.1 = alone.finish.1 := by
    refine ⟨h.session, ?_⟩
    rw [finish_fst, finish_fst, h.session]
  refine ⟨fun hcase => ?_, fun hrecalls => ?_⟩
  · rcases hcase with hrecalls | hopen
    · exact hsession (halike (.inl trivial) fun _ => hrecalls)
    · exact hsession (halike (.inr hopen) False.elim)
  · exact (halike (.inl trivial) fun _ => hrecalls).streams

def echoing : Host :=
  .boot
    { root := .directory 0 [("echo".toList, .file 1)]
      inodes := #[{ mode := 0o755 }, { mode := 0o755 }] }
    [] 1 .nothing true

/-- A line that runs a program, stops and has a comment behind it. -/
theorem repl_of_line_exit :
    let sh : Shell := { session := { name := "hsh".toList }, host := echoing }
    let line : Text := "/echo a && exit 3 # é".toList
    let batch := sh.repl (defaultFactories .echo) ⟨Utf8.encode line.line, false⟩
    let alone := ({ sh with session.lineCount := 1 } : Shell).runLine (defaultFactories .echo)
      line.stripComment
    (batch.finish.1 = alone.finish.1 ∧ batch.streams = alone.streams) ∧
      alone.finish.1 = 3 ∧ alone.streams.out.text = "a\n".toList := by
  have hnames :
      let sh : Shell := { session := { name := "hsh".toList, lineCount := 1 }, host := echoing }
      let line : Text := "/echo a && exit 3 # é".toList
      namesRun (defaultFactories .echo) (Segment.ofLine line.stripComment) sh =
        ["/echo".toList, "exit".toList] := by
    decide +kernel
  have hends :
      let sh : Shell := { session := { name := "hsh".toList, lineCount := 1 }, host := echoing }
      let line : Text := "/echo a && exit 3 # é".toList
      let alone := sh.runLine (defaultFactories .echo) line.stripComment
      alone.finish.1 = 3 ∧ alone.streams.out.text = "a\n".toList := by
    decide +kernel
  intro sh line batch alone
  have hline : '\n' ∉ line := by decide
  have hgoing : sh.session.exitRequest = none := rfl
  obtain ⟨hsession, hstreams⟩ := repl_of_line hgoing rfl hline false
  have hrecalls : Builtin.history.name ∉ namesRun (defaultFactories .echo)
      (Segment.ofLine line.stripComment) { sh with session.lineCount := 1 } := by
    rw [hnames]
    decide
  exact ⟨⟨(hsession (.inl hrecalls)).2, hstreams hrecalls⟩, hends⟩

/-- Without an entry there is nothing to write, and so nothing that an output refuses. -/
theorem repl_of_line_refused :
    let sh : Shell := { streams.out.refusesWrites := true }
    let line : Text := "history".toList
    let batch := sh.repl (defaultFactories .echo) ⟨Utf8.encode line.line, false⟩
    let alone := ({ sh with session.lineCount := 1 } : Shell).runLine (defaultFactories .echo)
      line.stripComment
    alone.session.lastStatus = 0 ∧ batch.session.lastStatus = 1 ∧
      batch.finish.1 ≠ alone.finish.1 := by
  decide +kernel

end Shell
end LineShell
