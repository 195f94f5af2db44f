import LineShell.Proofs.Expansion

/-!
How dollar signs are read. Each run of them stands for itself: pairs are process ids, and one that
is left over begins a reference to what is behind the run. This determines what a text expands to.
-/
namespace LineShell

/-- The characters that names of variables are made of in a text. -/
def InName (c : Char) : Prop :=
  ('A' ≤ c ∧ c ≤ 'Z') ∨ ('a' ≤ c ∧ c ≤ 'z') ∨ ('0' ≤ c ∧ c ≤ '9') ∨ c = '_'

theorem isNameChar_iff {c : Char} : isNameChar c ↔ InName c := by
  have hupper : c.isUpper ↔ 'A' ≤ c ∧ c ≤ 'Z' := decide_eq_true_iff
  have hlower : c.isLower ↔ 'a' ≤ c ∧ c ≤ 'z' :=
    Bool.and_eq_true_iff.trans (and_congr decide_eq_true_iff decide_eq_true_iff)
  have hdigit : c.isDigit ↔ '0' ≤ c ∧ c ≤ '9' :=
    Bool.and_eq_true_iff.trans (and_congr decide_eq_true_iff decide_eq_true_iff)
  have hparts : isNameChar c = (c.isUpper || c.isLower || c.isDigit || c == '_') := rfl
  rw [hparts, Bool.or_eq_true, Bool.or_eq_true, Bool.or_eq_true, hupper, hlower, hdigit,
    beq_iff_eq, or_assoc, or_assoc, InName]

theorem isNameChar_eq_false_iff {c : Char} : isNameChar c = false ↔ ¬ InName c := by
  rw [← isNameChar_iff, Bool.not_eq_true]

/-- A text without dollars, or one that is cut around its first run of them. -/
theorem Text.exists_dollars (t : Text) :
    '$' ∉ t ∨ ∃ p k q, t = p ++ List.replicate k '$' ++ q ∧ 1 ≤ k ∧ '$' ∉ p ∧
      q.head? ≠ some '$' := by
  cases hcut : Text.cut? '$' t with
  | none => exact .inl (Text.cut?_eq_none_iff.1 hcut)
  | some parts =>
    obtain ⟨p, rest⟩ := parts
    obtain ⟨rfl, hp⟩ := Text.cut?_eq_some_iff.1 hcut
    let run := rest.takeWhile (· == '$')
    let q := rest.dropWhile (· == '$')
    have hrun : run = List.replicate run.length '$' := by
      refine List.eq_replicate_of_mem fun c hc => ?_
      simpa using List.mem_takeWhile_imp hc
    have hq : q.head? ≠ some '$' := by
      intro hhead
      have hnot := List.head?_dropWhile_not (· == '$') rest
      rw [hhead] at hnot
      simp at hnot
    refine .inr ⟨p, run.length + 1, q, ?_, by omega, hp, hq⟩
    rw [List.replicate_succ, ← hrun, List.append_assoc, List.cons_append,
      List.takeWhile_append_dropWhile]

namespace Session

variable (s : Session)

/-- What a `$` stands for in front of a text that begins with no other, and where the text is read
on. -/
inductive Denotes : Text → Text → Text → Prop
  | status (rest : Text) : Denotes ('?' :: rest) s.lastStatus.text rest
  /-- The name is as long as it can be; a variable that is not set stands for nothing. -/
  | value {name rest : Text} (named : name ≠ []) (chars : ∀ c ∈ name, InName c)
      (longest : ∀ c ∈ rest.head?, ¬ InName c) :
      Denotes (name ++ rest) ((s.env.get? name).getD []) rest
  | itself {t : Text} (noStatus : t.head? ≠ some '?') (noName : ∀ c ∈ t.head?, ¬ InName c) :
      Denotes t ['$'] t

/-- Reads the dollars of a text run by run. What a reference stands for is taken as it is; only what
is behind the reference is read on. -/
structure ReadsDollars (f : Text → Text) : Prop where
  plain {t : Text} (without : '$' ∉ t) : f t = t
  even {p q : Text} {k : ℕ} (positive : 1 ≤ k) (parity : k % 2 = 0) (before : p.getLast? ≠ some '$')
    (behind : q.head? ≠ some '$') :
    f (p ++ List.replicate k '$' ++ q) =
      f p ++ (List.replicate (k / 2) (Text.decimal s.processId)).flatten ++ f q
  odd {p q : Text} {k : ℕ} (parity : k % 2 = 1) (before : p.getLast? ≠ some '$')
    (behind : q.head? ≠ some '$') {value rest : Text} (denotes : s.Denotes q value rest) :
    f (p ++ List.replicate k '$' ++ q) =
      f p ++ (List.replicate (k / 2) (Text.decimal s.processId)).flatten ++ value ++ f rest

variable {s}

/-! ### A single dollar -/

theorem takeWhile_of_longest {name rest : Text} (chars : ∀ c ∈ name, InName c)
    (longest : ∀ c ∈ rest.head?, ¬ InName c) :
    (name ++ rest).takeWhile isNameChar = name ∧ (name ++ rest).dropWhile isNameChar = rest := by
  have hname : ∀ c ∈ name, isNameChar c := fun c hc => isNameChar_iff.2 (chars c hc)
  have hrest : rest.takeWhile isNameChar = [] ∧ rest.dropWhile isNameChar = rest := by
    cases rest with
    | nil => exact ⟨rfl, rfl⟩
    | cons c rest =>
      have hc : isNameChar c = false := isNameChar_eq_false_iff.2 (longest c rfl)
      exact ⟨List.takeWhile_cons_of_neg (by simp [hc]), List.dropWhile_cons_of_neg (by simp [hc])⟩
  rw [List.takeWhile_append_of_pos hname, List.dropWhile_append_of_pos hname, hrest.1, hrest.2]
  exact ⟨List.append_nil _, rfl⟩

theorem reference_of_denotes {t value rest : Text} (hd : t.head? ≠ some '$')
    (h : s.Denotes t value rest) : s.reference t = (value, rest) := by
  cases h with
  | status rest => rfl
  | @value name rest named chars longest =>
    obtain ⟨c, name, rfl⟩ := List.exists_cons_of_ne_nil named
    have hq : (c :: name ++ rest).head? ≠ some '?' := by
      rintro he
      obtain rfl : c = '?' := by simpa using he
      have hc : isNameChar '?' := isNameChar_iff.2 (chars '?' List.mem_cons_self)
      exact absurd hc (by decide)
    obtain ⟨htake, hdrop⟩ := takeWhile_of_longest chars longest
    rw [reference_name s hq hd, htake, hdrop, if_neg named]
  | itself noStatus noName =>
    have htake : t.takeWhile isNameChar = [] :=
      (takeWhile_of_longest (List.forall_mem_nil _) noName).1
    rw [reference_name s noStatus hd, if_pos htake]

/-- In front of every text a `$` stands for something. -/
theorem exists_denotes (s : Session) {t : Text} (hd : t.head? ≠ some '$') :
    ∃ value rest, s.Denotes t value rest ∧ rest.length ≤ t.length := by
  by_cases hq : t.head? = some '?'
  · obtain ⟨rest, rfl⟩ := List.head?_eq_some_iff.1 hq
    exact ⟨_, rest, .status rest, by simp⟩
  let name := t.takeWhile isNameChar
  let rest := t.dropWhile isNameChar
  have hparts : name ++ rest = t := List.takeWhile_append_dropWhile
  have hlongest : ∀ c ∈ rest.head?, ¬ InName c := by
    intro c hc
    have hnot := List.head?_dropWhile_not isNameChar t
    rw [show (t.dropWhile isNameChar).head? = some c from hc] at hnot
    exact isNameChar_eq_false_iff.1 (by simpa using hnot)
  by_cases hname : name = []
  · have hrest : rest = t := by
      rw [← hparts, hname]
      rfl
    exact ⟨_, t, .itself hq (hrest ▸ hlongest), le_rfl⟩
  · have hchars : ∀ c ∈ name, InName c := fun c hc => isNameChar_iff.1 (List.mem_takeWhile_imp hc)
    have hvariable := Denotes.value (s := s) hname hchars hlongest
    rw [hparts] at hvariable
    exact ⟨_, rest, hvariable, (List.dropWhile_sublist _).length_le⟩

/-! ### Runs of dollars -/

theorem expandVars_pairs (s : Session) (m : ℕ) (t : Text) :
    s.expandVars (List.replicate (2 * m) '$' ++ t) =
      (List.replicate m (Text.decimal s.processId)).flatten ++ s.expandVars t := by
  induction m with
  | zero => rfl
  | succ m ih =>
    have hpair (t : Text) :
        s.expandVars ('$' :: '$' :: t) = Text.decimal s.processId ++ s.expandVars t :=
      expandVars_append_dollar s (a := []) (by simp) ('$' :: t)
    rw [show 2 * (m + 1) = 2 * m + 1 + 1 by omega, List.replicate_succ, List.replicate_succ,
      List.cons_append, List.cons_append, hpair, ih, List.replicate_succ, List.flatten_cons,
      List.append_assoc]

/-- Nothing in front of a run of dollars reaches into it. -/
theorem expandVars_append_run (s : Session) {p : Text} (hp : p.getLast? ≠ some '$') {k : ℕ}
    (hk : 1 ≤ k) (q : Text) :
    s.expandVars (p ++ List.replicate k '$' ++ q) =
      s.expandVars p ++ s.expandVars (List.replicate k '$' ++ q) := by
  obtain ⟨k, rfl⟩ := Nat.exists_eq_add_of_le' hk
  rw [List.append_assoc, List.replicate_succ, List.cons_append]
  exact expandVars_append_cons s (c := '$') (by decide) (fun hlast => (hp hlast).elim) _

theorem readsDollars_expandVars (s : Session) : s.ReadsDollars s.expandVars where
  plain without := expandVars_of_not_mem s without
  even {p q k} positive parity before _ := by
    have hk : k = 2 * (k / 2) := by omega
    have hrun : s.expandVars (List.replicate k '$' ++ q) =
        (List.replicate (k / 2) (Text.decimal s.processId)).flatten ++ s.expandVars q := by
      rw [hk, expandVars_pairs, ← hk]
    rw [expandVars_append_run s before positive, hrun, List.append_assoc]
  odd {p q k} parity before behind {value rest} denotes := by
    have hk : k = 2 * (k / 2) + 1 := by omega
    have hlast : s.expandVars ('$' :: q) = value ++ s.expandVars rest := by
      have hdollar := expandVars_append_dollar s (a := []) (by simp) q
      rw [reference_of_denotes behind denotes] at hdollar
      exact hdollar
    have hrun : s.expandVars (List.replicate k '$' ++ q) =
        (List.replicate (k / 2) (Text.decimal s.processId)).flatten ++
          (value ++ s.expandVars rest) := by
      rw [hk, List.replicate_succ', List.append_assoc, List.singleton_append, expandVars_pairs,
        hlast, ← hk]
    rw [expandVars_append_run s before (by omega), hrun, List.append_assoc, List.append_assoc]

/-- There is one way to read them: what is behind the first run is shorter than the text. -/
theorem ReadsDollars.eq {f g : Text → Text} (hf : s.ReadsDollars f) (hg : s.ReadsDollars g) :
    f = g := by
  funext t
  induction hn : t.length using Nat.strongRecOn generalizing t with
  | ind n ih =>
    obtain hplain | ⟨p, k, q, rfl, hk, hp, hq⟩ := t.exists_dollars
    · rw [hf.plain hplain, hg.plain hplain]
    have hbefore : p.getLast? ≠ some '$' := fun hlast => hp (List.mem_of_getLast? hlast)
    have hfront : f p = g p := by rw [hf.plain hp, hg.plain hp]
    have hshort (rest : Text) (hrest : rest.length ≤ q.length) : f rest = g rest := by
      refine ih rest.length ?_ rest rfl
      rw [List.length_append, List.length_append, List.length_replicate] at hn
      omega
    rcases Nat.mod_two_eq_zero_or_one k with hparity | hparity
    · rw [hf.even hk hparity hbefore hq, hg.even hk hparity hbefore hq, hfront, hshort q le_rfl]
    · obtain ⟨value, rest, hdenotes, hrest⟩ := s.exists_denotes hq
      rw [hf.odd hparity hbefore hq hdenotes, hg.odd hparity hbefore hq hdenotes, hfront,
        hshort rest hrest]

/-- Expansion reads dollars run by run, and whatever does so is expansion. -/
theorem readsDollars_iff (s : Session) (f : Text → Text) :
    s.ReadsDollars f ↔ f = s.expandVars := by
  constructor
  · intro hf
    exact hf.eq s.readsDollars_expandVars
  · rintro rfl
    exact s.readsDollars_expandVars

/-- The dollars in a value are not read. -/
example :
    let env : Bindings := .ofPairs [(['A'], "$B $1 $$".toList), (['B'], ['x'])]
    let s : Session := { env, processId := 7 }
    s.expandVars "$A|$$$A|$$?|$1A$-".toList = "$B $1 $$|7$B $1 $$|7?|$-".toList := by
  decide +kernel

end Session
end LineShell
