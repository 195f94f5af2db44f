import LineShell.Proofs.Canonical
import LineShell.Proofs.LostDiagnostics
import LineShell.Proofs.Scope
import Mathlib.Algebra.Group.Nat.Even
import Mathlib.Logic.Function.Iterate

/-!
What `cd` does to a session. A move back undoes a move, and the next one undoes that. A call that
fails has changed nothing, unless it was a move back that could not be announced.
-/
namespace LineShell

variable {programs : Programs}

/-- A path that its text can be turned back into. -/
def Path.IsText (p : Path) : Prop := ofText p.text = p

instance (p : Path) : Decidable p.IsText := inferInstanceAs (Decidable (_ = _))

theorem Path.isAbsolute_join {base : Path} (h : base.isAbsolute) (p : Path) :
    (base.join p).isAbsolute := by
  unfold join
  split_ifs with hp
  · exact hp
  all_goals
    obtain ⟨octets⟩ := base
    cases octets with
    | nil => simp [isAbsolute] at h
    | cons c rest => exact h

/-- A directory that is found again by what is written of it. -/
structure FileSystem.Returns (fs : FileSystem) (p : Path) : Prop where
  canonical : fs.IsCanonical p
  text : p.IsText

namespace Session

/-- What one session is to another after a move between two directories. -/
structure Moved (s s' : Session) (here there : Path) : Prop where
  directory : s'.directory = there
  pwd : s'.env.get? "PWD".toList = some there.text
  oldpwd : s'.env.get? "OLDPWD".toList = some here.text
  covers : Scope.Covers { directory := true, env := ["OLDPWD".toList, "PWD".toList] } s s'

theorem moved_moveTo (s : Session) (there : Path) : s.Moved (s.moveTo there) s.directory there where
  directory := rfl
  pwd := by rw [moveTo, Bindings.get?_set _ (by decide), if_pos rfl]
  oldpwd := by
    rw [moveTo, Bindings.get?_set _ (by decide), if_neg (by decide),
      Bindings.get?_set _ (by decide), if_pos rfl]
  covers := .moveTo rfl (by simp) (by simp) there

end Session

namespace Builtin

theorem destination_of_ne_dash (s : Session) {operands : List Text}
    (h : operands.head? ≠ some ['-']) :
    destination s operands = .noHome ∨ ∃ t, destination s operands = .target t := by
  unfold destination
  dsimp only
  split
  · cases s.env.get? "HOME".toList <;> simp
  · cases s.env.get? "HOME".toList <;> simp
  · exact absurd rfl h
  next t _ _ _ => exact .inr ⟨t, rfl⟩

end Builtin

namespace Shell
open Utf8 (encode)

variable {sh : Shell}

theorem canonical?_text {p : Path} (h : sh.host.files.Returns p) :
    sh.canonical? p.text = some p := by
  obtain ⟨⟨here, hhere, hpath⟩, htext⟩ := h
  have habsolute : p.isAbsolute := hpath ▸ here.isAbsolute_path
  have hjoin : sh.session.directory.join (.ofText p.text) = p := by
    rw [htext, Path.join, if_pos habsolute]
  rw [canonical?, hjoin, FileSystem.canonical?_of_isAbsolute habsolute, hhere, Option.map_some]
  exact congrArg some hpath

/-- Where a session moves to, it could have been before. -/
theorem isCanonical_of_canonical? (hidem : sh.host.files.Idempotent)
    (hcurrent : sh.host.files.IsCanonical sh.session.directory) {target : Text} {there : Path}
    (h : sh.canonical? target = some there) : sh.host.files.IsCanonical there := by
  obtain ⟨here, -, hpath⟩ := hcurrent
  have habsolute : sh.session.directory.isAbsolute := hpath ▸ here.isAbsolute_path
  obtain ⟨location, hlocation, rfl⟩ := Option.map_eq_some_iff.1 h
  rw [FileSystem.canonical?_of_isAbsolute (Path.isAbsolute_join habsolute _)] at hlocation
  exact ⟨location, hidem _ location hlocation, rfl⟩

/-! ### How a call ends -/

/-- The directory before the last move, where it can be gone back to. -/
def previous? (sh : Shell) : Option Path :=
  (sh.session.env.get? "OLDPWD".toList).bind sh.canonical?

/-- Whether a call moves back to a directory and cannot print where that is. -/
structure Unannounced (sh : Shell) (arguments : List Text) (there : Path) : Prop where
  dash : arguments = [['-']]
  previous : sh.previous? = some there
  refused : ¬ sh.streams.out.takes (encode there.text.line)

def back (programs : Programs) (sh : Shell) : Status × Shell :=
  sh.run (defaultFactories programs) "cd".toList [['-']]

inductive CdEnds (sh : Shell) (arguments : List Text) : Status × Shell → Prop
  | stayed {status left} (session : left.session = sh.session)
      (failed : status = 0 → arguments = [['-']] ∧ sh.session.env.get? "OLDPWD".toList = none) :
      CdEnds sh arguments (status, left)
  | moved {left target there} (found : sh.canonical? target = some there)
      (session : left.session = sh.session.moveTo there) (host : left.host = sh.host)
      (out : sh.streams.out.Stays left.streams.out) :
      CdEnds sh arguments (0, left)
  | moved_unannounced {left there} (unannounced : sh.Unannounced arguments there) :
      CdEnds sh arguments (1, left)

theorem run_back {there : Path} (h : sh.previous? = some there) :
    let line := encode there.text.line
    let moved := { sh with
      session := sh.session.moveTo there
      streams := { sh.streams with out := sh.streams.out.after line } }
    sh.back programs =
      if sh.streams.out.takes line then (0, moved)
      else (1, moved.telling "cd".toList
        (moved.session.diagnostic "cd".toList "sink failed".toList)) := by
  intro line moved
  obtain ⟨old, hold, hthere⟩ := Option.bind_eq_some_iff.1 h
  have hexec : Builtin.runCd [['-']] sh =
      print there.text.line { sh with session := sh.session.moveTo there } := by
    rw [Builtin.runCd, Builtin.destination, hold]
    dsimp only
    rw [Builtin.moveTo, hthere]
    rfl
  have hparse := Builtin.parse_optional (b := Builtin.cd) rfl rfl [['-']]
  rw [print, putOut_eq_ite] at hexec
  dsimp only at hexec
  split_ifs with htakes
  · rw [if_pos htakes] at hexec
    exact run_builtin rfl hparse hexec
  · rw [if_neg htakes] at hexec
    have hrun : sh.back programs = _ := run_of_fault rfl hparse hexec
    rwa [Fault.status, ite_self] at hrun

section Parsed

variable {arguments : List Text}
  (hparse : Builtin.cd.parse arguments = .ok { operands := arguments })
include hparse

theorem cdEnds_of_fault {fault : Fault} (hexec : Builtin.runCd arguments sh = (.error fault, sh))
    (hstatus : fault.status ≠ 0) :
    sh.CdEnds arguments (sh.run (defaultFactories programs) "cd".toList arguments) := by
  have hrun : sh.run (defaultFactories programs) "cd".toList arguments = _ :=
    run_of_fault rfl hparse hexec
  rw [hrun]
  refine .stayed (session_telling sh _ _) fun hzero => ?_
  split_ifs at hzero
  · exact absurd hzero hstatus
  · exact absurd hzero (by decide)

theorem cdEnds_of_usage {message : Text}
    (hexec : Builtin.runCd arguments sh = (.error (.usage 2 message), sh)) :
    sh.CdEnds arguments (sh.run (defaultFactories programs) "cd".toList arguments) :=
  cdEnds_of_fault hparse hexec (show (2 : Status) ≠ 0 by decide)

theorem cdEnds_of_ne_dash (hne : arguments.head? ≠ some ['-']) :
    sh.CdEnds arguments (sh.run (defaultFactories programs) "cd".toList arguments) := by
  rcases Builtin.destination_of_ne_dash sh.session hne with hhome | ⟨target, htarget⟩
  · have hexec : Builtin.runCd arguments sh = (.error (.usage 2 "HOME not set".toList), sh) := by
      rw [Builtin.runCd, hhome]
    exact cdEnds_of_usage hparse hexec
  · have hexec : Builtin.runCd arguments sh = Builtin.moveTo target (fun sh => (.ok 0, sh)) sh := by
      rw [Builtin.runCd, htarget]
    cases hfound : sh.canonical? target with
    | none =>
      rw [Builtin.moveTo, hfound] at hexec
      exact cdEnds_of_usage hparse hexec
    | some there =>
      rw [Builtin.moveTo, hfound] at hexec
      have hrun : sh.run (defaultFactories programs) "cd".toList arguments = _ :=
        run_builtin rfl hparse hexec
      rw [hrun]
      exact .moved hfound rfl rfl (.refl _)

end Parsed

theorem cdEnds_back (sh : Shell) : sh.CdEnds [['-']] (sh.back programs) := by
  have hparse := Builtin.parse_optional (b := Builtin.cd) rfl rfl [['-']]
  cases hold : sh.session.env.get? "OLDPWD".toList with
  | none =>
    have hexec : Builtin.runCd [['-']] sh = print sh.session.directory.text.line sh := by
      rw [Builtin.runCd, Builtin.destination, hold]
      rfl
    rw [print, putOut_eq_ite] at hexec
    split_ifs at hexec
    · have hrun : sh.back programs = _ := run_builtin rfl hparse hexec
      rw [hrun]
      exact .stayed rfl fun _ => ⟨rfl, hold⟩
    · have hrun : sh.back programs = _ := run_of_fault rfl hparse hexec
      rw [hrun, Fault.status, ite_self]
      exact .stayed (session_telling _ _ _) fun hzero => absurd hzero (by decide)
  | some old =>
    cases hfound : sh.canonical? old with
    | none =>
      have hexec : Builtin.runCd [['-']] sh = Builtin.moveTo old Builtin.printDirectory sh := by
        rw [Builtin.runCd, Builtin.destination, hold]
      rw [Builtin.moveTo, hfound] at hexec
      exact cdEnds_of_usage hparse hexec
    | some there =>
      have hprevious : sh.previous? = some there := by
        rw [previous?, hold, Option.bind_some, hfound]
      rw [run_back hprevious]
      split_ifs with htakes
      · exact .moved hfound rfl rfl (sh.streams.out.stays_after _)
      · exact .moved_unannounced ⟨rfl, hprevious, htakes⟩

theorem cdEnds_run (sh : Shell) (arguments : List Text) :
    sh.CdEnds arguments (sh.run (defaultFactories programs) "cd".toList arguments) := by
  have hparse := Builtin.parse_optional (b := Builtin.cd) rfl rfl arguments
  rcases arguments with _ | ⟨operand, _ | ⟨extra, rest⟩⟩
  · exact cdEnds_of_ne_dash hparse (by simp)
  · by_cases hdash : operand = ['-']
    · subst hdash
      exact cdEnds_back sh
    · exact cdEnds_of_ne_dash hparse (by simpa using hdash)
  · have hrefused :
        (sh.run (defaultFactories programs) "cd".toList (operand :: extra :: rest)).1 = 1 ∧ _ :=
      run_of_refusal rfl hparse rfl
    exact .stayed hrefused.2 fun hzero => absurd (hrefused.1.symm.trans hzero) (by decide)

theorem CdEnds.exists_move {arguments : List Text} {result : Status × Shell}
    (h : sh.CdEnds arguments result) (hstatus : result.1 = 0)
    (htarget : arguments = [['-']] → sh.session.env.get? "OLDPWD".toList ≠ none) :
    ∃ target there, sh.canonical? target = some there ∧
      result.2.session = sh.session.moveTo there ∧ result.2.host = sh.host ∧
      sh.streams.out.Stays result.2.streams.out := by
  cases h with
  | stayed session failed =>
    obtain ⟨hdash, hnone⟩ := failed hstatus
    exact absurd hnone (htarget hdash)
  | moved found session host out => exact ⟨_, _, found, session, host, out⟩
  | moved_unannounced => exact absurd hstatus (show (1 : Status) ≠ 0 by decide)

/-- `cd` moves and succeeds, or it changes nothing. Only where it moves back and cannot print the
directory, it moves and fails. -/
theorem cd_all_or_nothing (sh : Shell) (arguments : List Text) :
    let left := sh.run (defaultFactories programs) "cd".toList arguments
    (left.1 = 0 ∨ left.2.session = sh.session ∨ ∃ there, sh.Unannounced arguments there) ∧
      ∀ there, sh.Unannounced arguments there →
        left.1 = 1 ∧ left.2.session = sh.session.moveTo there := by
  intro left
  constructor
  · have hends : sh.CdEnds arguments left := cdEnds_run sh arguments
    generalize left = result at hends
    cases hends with
    | stayed session => exact .inr (.inl session)
    | moved => exact .inl rfl
    | moved_unannounced unannounced => exact .inr (.inr ⟨_, unannounced⟩)
  · rintro there ⟨rfl, hprevious, hrefused⟩
    have hback : left = _ := run_back hprevious
    rw [hback, if_neg hrefused]
    exact ⟨rfl, session_telling _ _ _⟩

/-- From a directory to the one before it, with an output stream that refuses its name. -/
theorem cd_back_unannounced :
    let env : Bindings := .ofPairs [("OLDPWD".toList, "/b".toList)]
    let sh : Shell :=
      { session := { env, directory := ⟨"/a".toList⟩ }
        streams := { out := { refusesWrites := true } }
        host := { schedule := { system := { files := .paired } } } }
    let left := sh.run (defaultFactories .echo) "cd".toList [['-']]
    left.1 = 1 ∧ left.2.session.directory = ⟨"/b".toList⟩ ∧ left.2.session ≠ sh.session := by
  intro env sh left
  have hreturns : sh.host.files.Returns ⟨"/b".toList⟩ :=
    ⟨⟨[['b']], FileSystem.canonical?_paired.1, rfl⟩, by decide +kernel⟩
  have hold : sh.session.env.get? "OLDPWD".toList = some (Path.text ⟨"/b".toList⟩) := by
    decide +kernel
  have hprevious : sh.previous? = some ⟨"/b".toList⟩ := by
    rw [previous?, hold, Option.bind_some, canonical?_text hreturns]
  have hback : left = _ := run_back hprevious
  rw [hback, if_neg (by decide), session_telling]
  exact ⟨rfl, rfl, by decide +kernel⟩

/-! ### Back and forth -/

/-- A shell that came from one directory to another, and writes as another shell did. -/
structure Stands (origin sh : Shell) (old now : Path) : Prop where
  files : sh.host.files = origin.host.files
  out : origin.streams.out.Stays sh.streams.out
  directory : sh.session.directory = now
  oldpwd : sh.session.env.get? "OLDPWD".toList = some old.text

section Stands

variable {origin : Shell} {old now : Path} (hold : origin.host.files.Returns old)
include hold

theorem Stands.previous? (h : Stands origin sh old now) : sh.previous? = some old := by
  have hreturns : sh.host.files.Returns old := by rwa [h.files]
  rw [Shell.previous?, h.oldpwd, Option.bind_some, canonical?_text hreturns]

theorem Stands.moved_back (h : Stands origin sh old now) :
    sh.session.Moved (sh.back programs).2.session now old := by
  have hmoved := sh.session.moved_moveTo old
  rw [h.directory] at hmoved
  rw [run_back (h.previous? hold)]
  split_ifs
  · exact hmoved
  · rwa [session_telling]

theorem Stands.back (h : Stands origin sh old now) :
    Stands origin (sh.back programs).2 now old := by
  have hmoved : sh.session.Moved (sh.back programs).2.session now old := h.moved_back hold
  have hkept : (sh.back programs).2.host = sh.host ∧
      (sh.back programs).2.streams.out = sh.streams.out.after (encode old.text.line) := by
    rw [run_back (h.previous? hold)]
    split_ifs
    · exact ⟨rfl, rfl⟩
    · dsimp only
      generalize Session.diagnostic _ _ _ = told
      obtain ⟨err, warnings, htold⟩ := exists_telling
        { sh with
          session := sh.session.moveTo old
          streams := { sh.streams with out := sh.streams.out.after (encode old.text.line) } }
        "cd".toList told
      rw [htold]
      exact ⟨rfl, rfl⟩
  have hout : origin.streams.out.Stays (sh.back programs).2.streams.out := by
    rw [hkept.2]
    exact h.out.trans (sh.streams.out.stays_after _)
  exact ⟨by rw [hkept.1, h.files], hout, hmoved.directory, hmoved.oldpwd⟩

theorem Stands.iterate (hnow : origin.host.files.Returns now) (h : Stands origin sh old now)
    (n : ℕ) :
    Stands origin ((fun sh => (sh.back programs).2)^[n] sh) (if Even n then old else now)
      (if Even n then now else old) := by
  induction n with
  | zero => simpa using h
  | succ n ih =>
    -- One more move back swaps the directories, and whether the number of moves is even.
    rw [Function.iterate_succ_apply']
    by_cases hn : Even n
    · have hsucc : ¬ Even (n + 1) := by simpa [Nat.even_add_one] using hn
      rw [if_pos hn, if_pos hn] at ih
      rw [if_neg hsucc, if_neg hsucc]
      exact ih.back hold
    · have hsucc : Even (n + 1) := Nat.even_add_one.2 hn
      rw [if_neg hn, if_neg hn] at ih
      rw [if_pos hsucc, if_pos hsucc]
      exact ih.back hnow

end Stands

/-- Behind a move, each move back takes the session to the other of the two directories and prints
it. -/
theorem cd_back_alternates {arguments : List Text}
    (hcurrent : sh.host.files.IsCanonical sh.session.directory)
    (hidem : sh.host.files.Idempotent) (htext : sh.session.directory.IsText)
    (hstatus : (sh.run (defaultFactories programs) "cd".toList arguments).1 = 0)
    (htarget : arguments = [['-']] → sh.session.env.get? "OLDPWD".toList ≠ none)
    (hreached :
      (sh.run (defaultFactories programs) "cd".toList arguments).2.session.directory.IsText) :
    let first := (sh.run (defaultFactories programs) "cd".toList arguments).2
    let here := sh.session.directory
    let there := first.session.directory
    sh.session.Moved first.session here there ∧
      ∀ n : ℕ,
        let before := (fun sh => (sh.back programs).2)^[n] first
        let old := if Even n then here else there
        let now := if Even n then there else here
        let line := encode old.text.line
        let after := before.back programs
        before.session.Moved after.2.session now old ∧
          after.1 = (if before.streams.out.takes line then 0 else 1) ∧
          (sh.streams.out.TakesAll → after.1 = 0 ∧
            after.2.streams.out.content = before.streams.out.content ++ line) ∧
          (sh.streams.out.RefusesAll → after.1 = 1) := by
  intro first here there
  obtain ⟨target, reached, hfound, hsession, hhost, hout⟩ :=
    (cdEnds_run sh arguments).exists_move hstatus htarget
  have hdirectory : there = reached := congrArg Session.directory hsession
  have hmoved : sh.session.Moved first.session here there := by
    rw [hdirectory, show first.session = _ from hsession]
    exact sh.session.moved_moveTo reached
  have hcanonical : sh.host.files.IsCanonical there := by
    rw [hdirectory]
    exact isCanonical_of_canonical? hidem hcurrent hfound
  have hhere : sh.host.files.Returns here := ⟨hcurrent, htext⟩
  have hthere : sh.host.files.Returns there := ⟨hcanonical, hreached⟩
  have hstands : Stands sh first here there :=
    ⟨congrArg Host.files hhost, hout, rfl, hmoved.oldpwd⟩
  refine ⟨hmoved, fun n => ?_⟩
  intro before old now line after
  have hbefore : Stands sh before old now := hstands.iterate hhere hthere n
  have hold : sh.host.files.Returns old := by
    unfold old
    split_ifs
    · exact hhere
    · exact hthere
  have hback : after = _ := run_back (hbefore.previous? hold)
  refine ⟨hbefore.moved_back hold, ?_, fun htakes => ?_, fun hrefuses => ?_⟩
  · rw [hback]
    split_ifs <;> rfl
  · have hall := hbefore.out.takes htakes
    rw [hback, if_pos (hall.takes _), hall.after_eq]
    exact ⟨rfl, rfl⟩
  · have hnone := (hbefore.out.refuses hrefuses).not_takes (Utf8.encode_line_ne_nil old.text)
    rw [hback, if_neg (by simp [hnone])]

/-- From one directory to the other, back, and back again. -/
theorem cd_back_alternates_paired :
    let sh : Shell :=
      { session := { directory := ⟨"/b".toList⟩ }
        host := { schedule := { system := { files := .paired } } } }
    let first := (sh.run (defaultFactories .echo) "cd".toList ["../a".toList]).2
    sh.session.Moved first.session ⟨"/b".toList⟩ ⟨"/a".toList⟩ ∧
      first.session.Moved (first.back .echo).2.session ⟨"/a".toList⟩ ⟨"/b".toList⟩ ∧
      (first.back .echo).1 = 0 ∧ (first.back .echo).2.streams.out.text = "/b\n".toList ∧
      (first.back .echo).2.session.Moved ((first.back .echo).2.back .echo).2.session
        ⟨"/b".toList⟩ ⟨"/a".toList⟩ := by
  intro sh
  have hcurrent : sh.host.files.IsCanonical sh.session.directory :=
    ⟨[['b']], FileSystem.canonical?_paired.1, rfl⟩
  have hjoin : sh.session.directory.join (.ofText "../a".toList) = ⟨"/b/../a".toList⟩ := by
    decide +kernel
  have hfiles : sh.host.files = .paired := rfl
  have hfound : sh.canonical? "../a".toList = some ⟨"/a".toList⟩ := by
    rw [canonical?, hjoin, FileSystem.canonical?_of_isAbsolute rfl, hfiles,
      FileSystem.canonical?_paired.2]
    rfl
  have hexec : Builtin.runCd ["../a".toList] sh =
      (.ok 0, { sh with session := sh.session.moveTo ⟨"/a".toList⟩ }) := by
    change Builtin.moveTo "../a".toList (fun sh => (.ok 0, sh)) sh = _
    rw [Builtin.moveTo, hfound]
  have hfirst : sh.run (defaultFactories .echo) "cd".toList ["../a".toList] = _ :=
    run_builtin rfl (Builtin.parse_optional rfl rfl _) hexec
  have hreached :
      (sh.run (defaultFactories .echo) "cd".toList ["../a".toList]).2.session.directory.IsText := by
    rw [hfirst]
    decide +kernel
  obtain ⟨hmoved, hback⟩ := @cd_back_alternates .echo _ _ hcurrent FileSystem.idempotent_paired
    (by decide +kernel) (congrArg Prod.fst hfirst) (by decide) hreached
  -- From here on it does not matter how the first call was carried out.
  generalize sh.run (defaultFactories .echo) "cd".toList ["../a".toList] = result at *
  obtain ⟨status, first⟩ := result
  have hthere : first.session.directory = ⟨"/a".toList⟩ :=
    congrArg (fun result => result.2.session.directory) hfirst
  have hcontent : first.streams.out.content = [] :=
    congrArg (fun result => result.2.streams.out.content) hfirst
  have hzero := hback 0
  have hone := hback 1
  simp only [Function.iterate_zero, id_eq, Even.zero, if_true] at hzero
  simp only [Function.iterate_one, Nat.not_even_one, if_false] at hone
  dsimp only at hmoved ⊢
  rw [hthere] at hmoved hzero hone
  have htakes : sh.streams.out.TakesAll := ⟨rfl, rfl⟩
  obtain ⟨hmovedBack, -, hannounced, -⟩ := hzero
  obtain ⟨hstatus, hprinted⟩ := hannounced htakes
  obtain ⟨hmovedAgain, -⟩ := hone
  refine ⟨hmoved, hmovedBack, hstatus, ?_, hmovedAgain⟩
  rw [Sink.text, hprinted, hcontent]
  decide +kernel

end Shell
end LineShell
