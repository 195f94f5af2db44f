import LineShell.Proofs.Coherence
import Mathlib.Data.Set.Card

/-!
Bindings after any number of edits. The edits alone tell what is bound: a name has the value that it
was given last, unless it was taken out after that, and the names stand in the order in which they
came in.
-/
namespace LineShell

/-- The last of some elements, and what stands in front of it. -/
theorem concat_eq_append_cons_iff {α : Type} {xs before after : List α} {x y : α} :
    xs ++ [x] = before ++ y :: after ↔
      xs = before ∧ x = y ∧ after = [] ∨
        ∃ front, after = front ++ [x] ∧ xs = before ++ y :: front := by
  constructor
  · intro h
    rcases after.eq_nil_or_concat with rfl | ⟨front, last, rfl⟩
    · obtain ⟨rfl, hlast⟩ := List.append_inj' h rfl
      exact .inl ⟨rfl, List.singleton_inj.1 hlast, rfl⟩
    · rw [List.concat_eq_append, ← List.cons_append, ← List.append_assoc] at h
      obtain ⟨rfl, hlast⟩ := List.append_inj' h rfl
      obtain rfl := List.singleton_inj.1 hlast
      exact .inr ⟨front, List.concat_eq_append, rfl⟩
  · rintro (⟨rfl, rfl, rfl⟩ | ⟨front, rfl, rfl⟩)
    · rfl
    · simp

namespace Bindings

inductive Edit
  | set (name value : Text)
  | unset (name : Text)
  deriving DecidableEq, Repr

namespace Edit

def name : Edit → Text
  | set name _ => name
  | unset name => name

def applyTo (b : Bindings) : Edit → Bindings
  | set name value => b.set name value
  | unset name => b.unset name

def applyAll (edits : List Edit) : Bindings := edits.foldl applyTo {}

theorem applyAll_concat (edits : List Edit) (edit : Edit) :
    applyAll (edits ++ [edit]) = applyTo (applyAll edits) edit := by
  rw [applyAll, List.foldl_append]
  rfl

/-! ### What the edits tell -/

/-- The name was given this value, and no later edit is of the name. -/
def Gives (edits : List Edit) (name value : Text) : Prop :=
  ∃ before after, edits = before ++ set name value :: after ∧ ∀ edit ∈ after, edit.name ≠ name

def Has (edits : List Edit) (name : Text) : Prop := ∃ value, Gives edits name value

/-- Edit number `i` set the name when it was not there, and the name was not taken out since. -/
def EntersAt (edits : List Edit) (name : Text) (i : Nat) : Prop :=
  ∃ before value after, edits = before ++ set name value :: after ∧ before.length = i ∧
    ¬ Has before name ∧ unset name ∉ after

section

variable {edits : List Edit} {edit : Edit} {name value : Text} {i : Nat}

theorem not_gives_nil : ¬ Gives [] name value := by
  rintro ⟨before, after, h, -⟩
  simp at h

theorem gives_concat_iff :
    Gives (edits ++ [edit]) name value ↔
      edit = set name value ∨ edit.name ≠ name ∧ Gives edits name value := by
  constructor
  · rintro ⟨before, after, h, hafter⟩
    rcases concat_eq_append_cons_iff.1 h with ⟨-, rfl, -⟩ | ⟨front, rfl, rfl⟩
    · exact .inl rfl
    · obtain ⟨hfront, hlast⟩ := List.forall_mem_append.1 hafter
      exact .inr ⟨hlast edit List.mem_cons_self, before, front, rfl, hfront⟩
  · rintro (rfl | ⟨hne, before, after, rfl, hafter⟩)
    · exact ⟨edits, [], rfl, by simp⟩
    · refine ⟨before, after ++ [edit], by simp, fun other hother => ?_⟩
      rcases List.mem_append.1 hother with hother | hother
      · exact hafter other hother
      · obtain rfl := List.mem_singleton.1 hother
        exact hne

theorem has_concat_iff :
    Has (edits ++ [edit]) name ↔
      (∃ value, edit = set name value) ∨ edit.name ≠ name ∧ Has edits name := by
  simp only [Has, gives_concat_iff, exists_or, exists_and_left]

theorem entersAt_concat_iff :
    EntersAt (edits ++ [edit]) name i ↔
      (∃ value, edit = set name value) ∧ edits.length = i ∧ ¬ Has edits name ∨
        edit ≠ unset name ∧ EntersAt edits name i := by
  constructor
  · rintro ⟨before, value, after, h, hi, hnew, hkept⟩
    rcases concat_eq_append_cons_iff.1 h with ⟨rfl, rfl, -⟩ | ⟨front, rfl, rfl⟩
    · exact .inl ⟨⟨value, rfl⟩, hi, hnew⟩
    · obtain ⟨hfront, hlast⟩ := not_or.1 (List.mem_append.not.1 hkept)
      refine .inr ⟨?_, before, value, front, rfl, hi, hnew, hfront⟩
      rintro rfl
      exact hlast List.mem_cons_self
  · rintro (⟨⟨value, rfl⟩, hi, hnew⟩ | ⟨hne, before, value, after, rfl, hi, hnew, hkept⟩)
    · exact ⟨edits, value, [], rfl, hi, hnew, by simp⟩
    · exact ⟨before, value, after ++ [edit], by simp, hi, hnew, by simp [hkept, hne.symm]⟩

theorem EntersAt.lt_length (h : EntersAt edits name i) : i < edits.length := by
  obtain ⟨before, value, after, rfl, rfl, -⟩ := h
  rw [List.length_append, List.length_cons]
  omega

/-- Whatever is there came in once and stayed. -/
theorem has_iff_exists_entersAt : Has edits name ↔ ∃ i, EntersAt edits name i := by
  induction edits using List.reverseRecOn with
  | nil =>
    have hnone (i : Nat) : ¬ EntersAt [] name i := fun h => absurd h.lt_length (Nat.not_lt_zero i)
    simp [Has, not_gives_nil, hnone]
  | append_singleton edits edit ih =>
    simp only [has_concat_iff, entersAt_concat_iff, exists_or, exists_and_left, ← ih]
    cases edit with
    | set other value =>
      by_cases hname : other = name
      · subst hname
        -- Setting a name either lets it in or leaves it where it came in.
        by_cases hold : Has edits other <;> simp [hold]
      · simp [hname, Edit.name]
    | unset other => by_cases hname : other = name <;> simp [hname, Edit.name]

end

/-! ### What the bindings are -/

section

variable {edits : List Edit} (hnames : ∀ name value, set name value ∈ edits → '=' ∉ name)
include hnames

theorem orderly_applyAll : (applyAll edits).Orderly fun _ _ => True := by
  refine List.foldlRecOn edits _ .empty fun b hb edit hedit => ?_
  cases edit with
  | set name value => exact hb.set (hnames name value hedit) trivial
  | unset name => exact hb.unset name

theorem get?_applyAll (name value : Text) :
    (applyAll edits).get? name = some value ↔ Gives edits name value := by
  induction edits using List.reverseRecOn with
  | nil => exact iff_of_false (fun h => nomatch h) not_gives_nil
  | append_singleton edits edit ih =>
    have hearlier : ∀ name value, set name value ∈ edits → '=' ∉ name :=
      fun name value h => hnames name value (List.mem_append_left _ h)
    have ih := ih hearlier
    rw [applyAll_concat, gives_concat_iff]
    cases edit with
    | set other given =>
      have hother : '=' ∉ other := hnames other given (List.mem_append_right _ List.mem_cons_self)
      rw [applyTo, get?_set _ hother]
      by_cases hname : name = other
      · simp [hname, Edit.name]
      · simp [hname, Ne.symm hname, Edit.name, ih]
    | unset other =>
      by_cases hname : name = other
      · subst hname
        have hnone := get?_unset_self (orderly_applyAll hearlier).distinct name
        simp [applyTo, hnone, Edit.name]
      · simp [applyTo, get?_unset_of_ne _ hname, Ne.symm hname, Edit.name, ih]

theorem mem_names_applyAll (name : Text) : name ∈ (applyAll edits).names ↔ Has edits name := by
  rw [← not_iff_not, ← get?_eq_none_iff, Option.eq_none_iff_forall_ne_some]
  simp only [ne_eq, get?_applyAll hnames, Has, not_exists]

/-- The names stand in the order in which they came in: a name that is set again keeps its place. -/
theorem pairwise_names_applyAll :
    (applyAll edits).names.Pairwise fun first second =>
      ∀ i j, EntersAt edits first i → EntersAt edits second j → i < j := by
  induction edits using List.reverseRecOn with
  | nil => exact .nil
  | append_singleton edits edit ih =>
    have hearlier : ∀ name value, set name value ∈ edits → '=' ∉ name :=
      fun name value h => hnames name value (List.mem_append_left _ h)
    have hsorted := ih hearlier
    -- A name that was there before this edit did not come in with it.
    have hcame {name : Text} (hm : name ∈ (applyAll edits).names) {i : Nat}
        (hi : EntersAt (edits ++ [edit]) name i) : EntersAt edits name i := by
      rcases entersAt_concat_iff.1 hi with ⟨-, -, hnew⟩ | ⟨-, hi⟩
      · exact absurd ((mem_names_applyAll hearlier name).1 hm) hnew
      · exact hi
    have hkept : (applyAll edits).names.Pairwise fun first second =>
        ∀ i j, EntersAt (edits ++ [edit]) first i → EntersAt (edits ++ [edit]) second j → i < j :=
      hsorted.imp_of_mem fun hfirst hsecond hlt i j hi hj =>
        hlt i j (hcame hfirst hi) (hcame hsecond hj)
    rw [applyAll_concat]
    cases edit with
    | unset name =>
      rw [applyTo, names_unset]
      exact hkept.sublist List.erase_sublist
    | set name value =>
      have hname : '=' ∉ name := hnames name value (List.mem_append_right _ List.mem_cons_self)
      rw [applyTo, names_set _ hname]
      split
      · exact hkept
      next hnew =>
        refine List.pairwise_append.2 ⟨hkept, List.pairwise_singleton _ _, ?_⟩
        intro first hfirst second hsecond i j hi hj
        obtain rfl := List.mem_singleton.1 hsecond
        have hlt := (hcame hfirst hi).lt_length
        rcases entersAt_concat_iff.1 hj with ⟨-, rfl, -⟩ | ⟨-, hj⟩
        · exact hlt
        · have hhas := has_iff_exists_entersAt.2 ⟨j, hj⟩
          exact absurd ((mem_names_applyAll hearlier second).2 hhas) hnew

theorem size_applyAll : (applyAll edits).size = {name | Has edits name}.ncard := by
  have horderly := orderly_applyAll hnames
  have hset : {name | Has edits name} = ((applyAll edits).names.toFinset : Set Text) := by
    ext name
    simpa using (mem_names_applyAll hnames name).symm
  have hlength : (applyAll edits).names.length = (applyAll edits).size := by
    have htexts := congrArg List.length horderly.map_pairs
    simpa [names, texts, Entries.texts, size, Entries.size] using htexts
  rw [hset, Set.ncard_coe_finset, List.toFinset_card_of_nodup horderly.distinct, hlength]

end

end Edit

theorem ofPairs_eq_applyAll (given : List (Text × Text)) :
    ofPairs given = Edit.applyAll (given.map fun (name, value) => .set name value) := by
  rw [Edit.applyAll, List.foldl_map]
  rfl

open Edit in
/-- Bindings are a map that remembers the order of its names, whatever values they are given: a name
has the value that it was set to last, it can be taken out exactly while it is there, and the
entries are those of the names that are there, in the order in which they came in. A name with an
equals sign is never found. -/
theorem entries_of_edits {given : List (Text × Text)} (hgiven : ∀ pair ∈ given, '=' ∉ pair.1)
    {edits : List Edit} (hedits : ∀ name value, .set name value ∈ edits → '=' ∉ name) :
    let b := edits.foldl applyTo (ofPairs given)
    let all := given.map (fun (name, value) => .set name value) ++ edits
    (∀ name value, b.get? name = some value ↔ Gives all name value) ∧
      (∀ name, (b.unset? name).isSome ↔ Has all name) ∧
      b.size = {name | Has all name}.ncard ∧
      (b.texts = b.pairs.map (fun (name, value) => name ++ '=' :: value) ∧
        (∀ name value, (name, value) ∈ b.pairs ↔ Gives all name value) ∧
        (∀ name, Has all name ↔ ∃ i, EntersAt all name i) ∧
        b.pairs.Pairwise fun first second =>
          ∀ i j, EntersAt all first.1 i → EntersAt all second.1 j → i < j) ∧
      ∀ (table : Bindings) (name : Text), '=' ∈ name →
        table.get? name = none ∧ table.unset? name = none ∧ table.unset name = table := by
  intro b all
  have hb : b = applyAll all := by
    simp only [b, all]
    rw [ofPairs_eq_applyAll, applyAll, applyAll, List.foldl_append]
  have hnames : ∀ name value, .set name value ∈ all → '=' ∉ name := by
    intro name value h
    rcases List.mem_append.1 h with h | h
    · obtain ⟨pair, hpair, he⟩ := List.mem_map.1 h
      obtain ⟨rfl, -⟩ := Edit.set.inj he
      exact hgiven pair hpair
    · exact hedits name value h
  have horderly := orderly_applyAll hnames
  rw [hb]
  refine ⟨get?_applyAll hnames, fun name => ?_, size_applyAll hnames,
    ⟨horderly.map_pairs.symm, fun name value => ?_, fun name => has_iff_exists_entersAt, ?_⟩,
    fun table name h => ?_⟩
  · rw [isSome_unset?_iff, mem_names_applyAll hnames]
  · rw [← get?_applyAll hnames]
    exact ⟨get?_of_mem_pairs horderly.distinct, mem_pairs_of_get?⟩
  · exact List.pairwise_map.1 (pairwise_names_applyAll hnames)
  · have hm := table.not_mem_names_of_mem h
    have hunset : table.unset? name = none := by
      rw [← Option.not_isSome_iff_eq_none, isSome_unset?_iff]
      exact hm
    exact ⟨get?_eq_none_iff.2 hm, hunset, by rw [unset, hunset, Option.getD_none]⟩

open Edit in
/-- A name that was taken out comes in again behind the others, and one that is set again does not
move. An empty value and an empty name are like any other. -/
theorem entries_of_edits_again :
    let given : List (Text × Text) := [(['A'], ['1']), ([], "=2".toList)]
    let edits : List Edit :=
      [.set ['é'] [], .unset ['A'], .set [] ['3'], .unset "A=".toList, .set ['A'] ['='],
        .set "AB".toList ['x'], .unset "AB".toList]
    let b := edits.foldl applyTo (ofPairs given)
    let all := given.map (fun (name, value) => .set name value) ++ edits
    b.texts = ["=3".toList, "é=".toList, "A==".toList] ∧ Gives all ['A'] ['='] ∧
      ¬ Has all "AB".toList ∧ {name | Has all name}.ncard = 3 := by
  intro given edits b all
  have hgiven : ∀ pair ∈ given, '=' ∉ pair.1 := by decide
  have hedits : ∀ name value, .set name value ∈ edits → '=' ∉ name := by
    intro name value h
    rcases by simpa [edits] using h with ⟨rfl, -⟩ | ⟨rfl, -⟩ | ⟨rfl, -⟩ | ⟨rfl, -⟩ <;> decide
  obtain ⟨hget, hunset, hsize, -⟩ := entries_of_edits hgiven hedits
  refine ⟨by decide, (hget _ _).1 (by decide), fun h => ?_, ?_⟩
  · exact absurd ((hunset _).2 h) (by decide)
  · rw [← hsize]
    decide

end Bindings
end LineShell
