import LineShell.Proofs.LostDiagnostics
import Mathlib.Data.List.Induction
import Mathlib.Data.Nat.Digits.Defs

/-!
The statuses that `exit` can be asked for. Its operand is taken as it is, whatever it looks like,
and has to be a decimal number that a status can be.
-/
namespace LineShell

variable {programs : Programs}

namespace Text

/-- ASCII digits that write a number, the highest first. -/
def IsDecimal (t : Text) (n : ℕ) : Prop :=
  ∃ ds : List ℕ, ds ≠ [] ∧ (∀ d ∈ ds, d < 10) ∧ t = ds.map Nat.digitChar ∧
    n = Nat.ofDigits 10 ds.reverse

def IsNumeral (t : Text) (n : ℕ) : Prop :=
  t.IsDecimal n ∨ ∃ digits : Text, t = '+' :: digits ∧ digits.IsDecimal n

theorem digitChar_value {c : Char} (h : c.isDigit) :
    c.toNat - '0'.toNat < 10 ∧ Nat.digitChar (c.toNat - '0'.toNat) = c := by
  have hc : 48 ≤ c.toNat ∧ c.toNat ≤ 57 := by
    simpa [Char.isDigit, UInt32.le_iff_toNat_le] using h
  have hzero : '0'.toNat = 48 := rfl
  have hlt : c.toNat - '0'.toNat < 10 := by omega
  refine ⟨hlt, Char.toNat_inj.1 ?_⟩
  rw [Nat.toNat_digitChar_of_lt_ten hlt]
  omega

theorem foldl_digitChar {ds : List ℕ} (h : ∀ d ∈ ds, d < 10) :
    (ds.map Nat.digitChar).foldl (fun n c => n * 10 + (c.toNat - '0'.toNat)) 0 =
      Nat.ofDigits 10 ds.reverse := by
  induction ds using List.reverseRecOn with
  | nil => rfl
  | append_singleton ds d ih =>
    have hds : ∀ d ∈ ds, d < 10 := fun d hd => h d (List.mem_append_left _ hd)
    have hd : (Nat.digitChar d).toNat - '0'.toNat = d := by
      have hzero : '0'.toNat = 48 := rfl
      rw [Nat.toNat_digitChar_of_lt_ten (h d (by simp))]
      omega
    rw [List.map_append, List.map_singleton, List.foldl_append, List.foldl_cons, List.foldl_nil,
      ih hds, hd, List.reverse_append, List.reverse_singleton, List.singleton_append,
      Nat.ofDigits_cons]
    omega

theorem natural?_eq_some_iff {t : Text} {n : ℕ} : natural? t = some n ↔ t.IsDecimal n := by
  constructor
  · intro h
    unfold natural? at h
    split_ifs at h with hdigits
    obtain ⟨hne, hall⟩ := hdigits
    obtain rfl := Option.some.inj h
    have hdigit : ∀ c ∈ t, c.isDigit := List.all_eq_true.1 hall
    let ds := t.map fun c => c.toNat - '0'.toNat
    have hds : ∀ d ∈ ds, d < 10 := by
      intro d hd
      obtain ⟨c, hc, rfl⟩ := List.mem_map.1 hd
      exact (digitChar_value (hdigit c hc)).1
    have ht : t = ds.map Nat.digitChar := by
      rw [List.map_map]
      conv_lhs => rw [← List.map_id t]
      exact List.map_congr_left fun c hc => (digitChar_value (hdigit c hc)).2.symm
    refine ⟨ds, by simpa [ds] using hne, hds, ht, ?_⟩
    rw [← foldl_digitChar hds, ← ht]
  · rintro ⟨ds, hne, hds, rfl, rfl⟩
    have hall : (ds.map Nat.digitChar).all Char.isDigit := by
      simpa [Nat.isDigit_digitChar] using hds
    rw [natural?, if_pos ⟨by simpa using hne, hall⟩, foldl_digitChar hds]

theorem isNumeral_iff {t : Text} {n : ℕ} :
    t.IsNumeral n ↔
      natural? (match t with
        | '+' :: rest => rest
        | _ => t) = some n := by
  rw [natural?_eq_some_iff]
  split
  next rest =>
    have hplus : ¬ IsDecimal ('+' :: rest) n := by
      rw [← natural?_eq_some_iff]
      simp [natural?]
    constructor
    · rintro (h | ⟨digits, he, h⟩)
      · exact absurd h hplus
      · obtain ⟨-, rfl⟩ := List.cons.inj he
        exact h
    · intro h
      exact .inr ⟨rest, rfl, h⟩
  next hplus =>
    constructor
    · rintro (h | ⟨digits, rfl, -⟩)
      · exact h
      · exact (hplus digits rfl).elim
    · exact .inl

end Text

namespace Builtin

theorem status?_eq_some_iff {t : Text} {status : Status} :
    status? t = some status ↔
      ∃ n : ℕ, n ≤ 2147483647 ∧ t.IsNumeral n ∧ status.toInt = n := by
  have hvalue {n : ℕ} (hn : n ≤ 2147483647) : (Int32.ofNat n).toInt = n :=
    Int32.toInt_ofNat_of_lt (by omega)
  simp only [Text.isNumeral_iff]
  unfold status?
  dsimp only
  generalize Text.natural? _ = number
  cases number with
  | none => simp
  | some n =>
    constructor
    · intro h
      dsimp only at h
      split_ifs at h with hn
      obtain rfl := Option.some.inj h
      exact ⟨n, hn, rfl, hvalue hn⟩
    · rintro ⟨m, hm, hnm, hstatus⟩
      obtain rfl := Option.some.inj hnm
      have hle : n ≤ maxStatus := hm
      have hsame : Int32.ofNat n = status := Int32.toInt_inj.1 ((hvalue hm).trans hstatus.symm)
      dsimp only
      rw [if_pos hle, hsame]

theorem status?_eq_none_iff {t : Text} :
    status? t = none ↔ ∀ n ≤ 2147483647, ¬ t.IsNumeral n := by
  constructor
  · intro hnone n hn hnumeral
    have hsome : status? t = some (Int32.ofNat n) :=
      status?_eq_some_iff.2 ⟨n, hn, hnumeral, Int32.toInt_ofNat_of_lt (by omega)⟩
    rw [hnone] at hsome
    simp at hsome
  · intro h
    refine Option.eq_none_iff_forall_ne_some.2 fun status hstatus => ?_
    obtain ⟨n, hn, hnumeral, -⟩ := status?_eq_some_iff.1 hstatus
    exact h n hn hnumeral

end Builtin

namespace Shell
open Utf8 (encode)

/-- The shell when it has been asked to stop with a status. -/
def stopping (sh : Shell) (status : Status) : Shell :=
  { sh with session.exitRequest := some status }

variable (sh : Shell)

theorem run_exit_last :
    sh.run (defaultFactories programs) "exit".toList [] =
      (sh.session.lastStatus, sh.stopping sh.session.lastStatus) :=
  run_builtin rfl (Builtin.parse_optional rfl rfl []) rfl

theorem run_exit_of_status {operand : Text} {status : Status}
    (h : Builtin.status? operand = some status) :
    sh.run (defaultFactories programs) "exit".toList [operand] = (status, sh.stopping status) := by
  have hexec : Builtin.runExit [operand] sh = (.ok status, sh.stopping status) := by
    rw [Builtin.runExit]
    dsimp only
    rw [h]
    rfl
  exact run_builtin rfl (Builtin.parse_optional rfl rfl [operand]) hexec

variable {sh}

theorem run_exit_of_none (h : sh.streams.AcceptWrites) {operand : Text}
    (hnone : Builtin.status? operand = none) :
    sh.run (defaultFactories programs) "exit".toList [operand] =
      (2, { sh with
        streams.err.content := sh.streams.err.content ++
          encode (sh.session.diagnostic "exit".toList
            ("Illegal number: ".toList ++ operand)).line }) := by
  have hexec : Builtin.runExit [operand] sh =
      (.error (.usage 2 ("Illegal number: ".toList ++ operand)), sh) := by
    rw [Builtin.runExit]
    dsimp only
    rw [hnone]
  have hrun : sh.run (defaultFactories programs) "exit".toList [operand] = _ :=
    run_of_fault (b := Builtin.exit) rfl (Builtin.parse_optional rfl rfl [operand]) hexec
  rw [hrun, if_pos (h.err.takes _), telling_eq h.err]
  rfl

/-- `exit` stops with the number that its operand writes, if that is a number up to the greatest
status. Anything else it rejects as a number, also what looks like an option or asks for help, and
then it changes nothing. -/
theorem run_exit (h : sh.streams.AcceptWrites) :
    let run := sh.run (defaultFactories programs) "exit".toList
    (∀ (operand : Text) (status : Status),
      run [operand] = (status, sh.stopping status) ↔
        ∃ n : ℕ, n ≤ 2147483647 ∧ operand.IsNumeral n ∧ status.toInt = n) ∧
      (∀ operand : Text, (∀ n ≤ 2147483647, ¬ operand.IsNumeral n) →
        run [operand] = (2, { sh with
          streams.err.content := sh.streams.err.content ++
            encode (sh.session.diagnostic "exit".toList
              ("Illegal number: ".toList ++ operand)).line })) ∧
      run [] = (sh.session.lastStatus, sh.stopping sh.session.lastStatus) ∧
      ∀ first second rest,
        (run (first :: second :: rest)).1 = 1 ∧
          (run (first :: second :: rest)).2.session = sh.session := by
  intro run
  refine ⟨fun operand status => ?_, fun operand hoperand => ?_, run_exit_last sh,
    fun first second rest => ?_⟩
  · rw [← Builtin.status?_eq_some_iff]
    constructor
    · intro hrun
      cases hstatus : Builtin.status? operand with
      | none =>
        -- What is rejected has a diagnostic, and what is accepted has none.
        have hnone : run [operand] = _ := run_exit_of_none h hstatus
        rw [hnone] at hrun
        have herr := congrArg (fun result => result.2.streams.err.content) hrun
        have hempty := List.append_right_eq_self.1 herr
        exact absurd hempty (Utf8.encode_line_ne_nil _)
      | some other =>
        have hother : run [operand] = _ := run_exit_of_status sh hstatus
        rw [hother] at hrun
        exact congrArg some (Prod.mk.inj hrun).1
    · exact run_exit_of_status sh
  · exact run_exit_of_none h (Builtin.status?_eq_none_iff.2 hoperand)
  · exact run_of_refusal rfl (Builtin.parse_optional rfl rfl (first :: second :: rest)) rfl

/-- The greatest status with a plus sign and a zero in front, the number above it, and what a plus
sign too many makes of one. -/
theorem run_exit_bounds :
    let sh : Shell := { session := { name := "hsh".toList, lastStatus := -3 } }
    let run := sh.run (defaultFactories .echo) "exit".toList
    run ["+02147483647".toList] = (2147483647, sh.stopping 2147483647) ∧
      (run ["2147483648".toList]).2.streams.err.text =
        "hsh: 0: exit: Illegal number: 2147483648\n".toList ∧
      (run ["++7".toList]).1 = 2 ∧ (run ["++7".toList]).2.session = sh.session ∧
      run [] = (-3, sh.stopping (-3)) ∧ (run ["1".toList, "2".toList]).1 = 1 := by
  intro sh run
  have haccept : sh.streams.AcceptWrites := ⟨⟨rfl, rfl⟩, ⟨rfl, rfl⟩⟩
  obtain ⟨haccepted, hrejected, hlast, hmany⟩ := @run_exit .echo sh haccept
  have hnumeral : Text.IsNumeral "+02147483647".toList 2147483647 :=
    .inr ⟨_, rfl, [0, 2, 1, 4, 7, 4, 8, 3, 6, 4, 7], by decide, by decide, by decide, by decide⟩
  have habove : run ["2147483648".toList] = _ :=
    hrejected _ (Builtin.status?_eq_none_iff.1 (by decide))
  have hplus : run ["++7".toList] = _ := hrejected _ (Builtin.status?_eq_none_iff.1 (by decide))
  refine ⟨(haccepted _ _).2 ⟨_, le_rfl, hnumeral, by decide⟩, ?_, ?_, ?_, hlast, (hmany _ _ []).1⟩
  · rw [habove]
    decide +kernel
  · rw [hplus]
  · rw [hplus]

end Shell
end LineShell
