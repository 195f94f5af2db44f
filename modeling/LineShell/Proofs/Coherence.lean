import LineShell.Proofs.Bindings
import LineShell.Proofs.Changes

/-!
The variables and aliases of a session that began with proper ones stay proper, whatever is run and
however it ends: no name is set twice, none is malformed, and programs are given what the shell
itself finds.
-/
namespace LineShell

variable {programs : Programs}

namespace Bindings

/-- No name is set twice, and every entry is a name without `=` and a value that go together. -/
structure Orderly (goTogether : Text → Text → Prop) (b : Bindings) : Prop where
  distinct : b.names.Nodup
  stored : ∀ t ∈ b.texts, ∃ name value,
    t = name ++ '=' :: value ∧ '=' ∉ name ∧ goTogether name value

namespace Orderly

variable {goTogether : Text → Text → Prop} {b : Bindings}

theorem empty : Orderly goTogether {} where
  distinct := List.nodup_nil
  stored _ h := absurd h List.not_mem_nil

theorem set (hb : b.Orderly goTogether) {name value : Text} (hn : '=' ∉ name)
    (h : goTogether name value) : (b.set name value).Orderly goTogether where
  distinct := nodup_set hb.distinct hn value
  stored t ht := by
    rcases mem_texts_set ht with rfl | ht
    · exact ⟨name, value, rfl, hn, h⟩
    · exact hb.stored t ht

theorem unset (hb : b.Orderly goTogether) (name : Text) : (b.unset name).Orderly goTogether where
  distinct := nodup_unset hb.distinct name
  stored t ht := hb.stored t ((texts_unset_sublist b name).mem ht)

theorem of_mem_pairs (hb : b.Orderly goTogether) {name value : Text}
    (h : (name, value) ∈ b.pairs) : '=' ∉ name ∧ goTogether name value := by
  obtain ⟨t, ht, hcut⟩ := List.mem_filterMap.1 h
  obtain ⟨name', value', rfl, hn, hgo⟩ := hb.stored t ht
  rw [Text.cut?_eq_some_iff.2 ⟨rfl, hn⟩] at hcut
  obtain ⟨rfl, rfl⟩ := Prod.mk.inj (Option.some.inj hcut)
  exact ⟨hn, hgo⟩

/-- Nothing is lost when the entries are handed on as pairs. -/
theorem map_pairs (hb : b.Orderly goTogether) :
    b.pairs.map (fun (name, value) => name ++ '=' :: value) = b.texts := by
  have hstored := hb.stored
  unfold pairs
  generalize b.texts = ts at hstored
  induction ts with
  | nil => rfl
  | cons t ts ih =>
    obtain ⟨⟨name, value, rfl, hn, -⟩, hts⟩ := List.forall_mem_cons.1 hstored
    simp [Text.cut?_eq_some_iff.2 ⟨rfl, hn⟩, ih hts]

end Orderly

theorem orderly_ofPairs {pairs : List (Text × Text)} (h : ∀ pair ∈ pairs, '=' ∉ pair.1) :
    (ofPairs pairs).Orderly fun _ _ => True := by
  refine List.foldlRecOn pairs _ .empty fun b hb pair hp => ?_
  exact hb.set (h pair hp) trivial

end Bindings

theorem insertSorted_perm {name : Text} (value : Text) {pairs : List (Text × Text)}
    (h : name ∉ pairs.map (·.1)) :
    (insertSorted name value pairs).Perm ((name, value) :: pairs) := by
  induction pairs with
  | nil => rfl
  | cons pair rest ih =>
    obtain ⟨hne, hrest⟩ := not_or.1 (List.mem_cons.not.1 h)
    unfold insertSorted
    split
    · rfl
    · exact ((ih hrest).cons pair).trans (.swap _ _ _)

theorem foldl_insertSorted_perm {pairs sorted : List (Text × Text)}
    (h : ((pairs ++ sorted).map (·.1)).Nodup) :
    (pairs.foldl (fun sorted (name, value) => insertSorted name value sorted) sorted).Perm
      (pairs ++ sorted) := by
  induction pairs generalizing sorted with
  | nil => rfl
  | cons pair rest ih =>
    obtain ⟨name, value⟩ := pair
    have hname : name ∉ sorted.map (·.1) := by
      have := (List.nodup_cons.1 h).1
      simp_all
    have hinsert :
        (rest ++ insertSorted name value sorted).Perm ((name, value) :: rest ++ sorted) :=
      ((insertSorted_perm value hname).append_left rest).trans List.perm_middle
    exact (ih ((hinsert.map _).nodup_iff.2 h)).trans hinsert

/-- Every pair is handed to a program as it is, when no name comes twice. -/
theorem environmentOf_perm {pairs : List (Text × Text)} (h : (pairs.map (·.1)).Nodup) :
    (environmentOf pairs).Perm (pairs.map fun (name, value) => name ++ '=' :: value) := by
  rw [← List.append_nil pairs] at h
  have hfold := foldl_insertSorted_perm h
  rw [List.append_nil] at hfold
  exact hfold.map _

namespace Session

def IsAlias (name value : Text) : Prop := name ≠ [] ∧ (∀ c ∈ name, isBlank c = false) ∧ value ≠ []

/-- No variable and no alias is malformed or set twice. -/
structure IsCoherent (s : Session) : Prop where
  env : s.env.Orderly fun _ _ => True
  aliases : s.aliases.Orderly IsAlias

theorem IsCoherent.change {arguments : List Text} {s s' : Session}
    (hwords : ∀ argument ∈ arguments, ∀ c ∈ argument, isBlank c = false) (h : s.IsCoherent)
    (hstep : s.Change arguments s') : s'.IsCoherent := by
  obtain ⟨hvars, haliases⟩ := h
  cases hstep with
  | stop => exact ⟨hvars, haliases⟩
  | move there => exact ⟨(hvars.set (by decide) trivial).set (by decide) trivial, haliases⟩
  | setVariable name value valid =>
    obtain ⟨-, hn⟩ := by simpa [Builtin.isVariableName] using valid
    exact ⟨hvars.set hn trivial, haliases⟩
  | unsetVariable name => exact ⟨hvars.unset name, haliases⟩
  | setAlias operand name rest value given parted named valued =>
    obtain ⟨rfl, hn⟩ := Text.cut?_eq_some_iff.1 parted
    have hblank : ∀ c ∈ name, isBlank c = false :=
      fun c hc => hwords _ given c (List.mem_append_left _ hc)
    exact ⟨hvars, haliases.set hn ⟨named, hblank, valued⟩⟩
  | unsetAlias name => exact ⟨hvars, haliases.unset name⟩

theorem isCoherent_invariant : Invariant IsCoherent where
  change := IsCoherent.change
  status _ h := ⟨h.env, h.aliases⟩
  enter _ h := by
    unfold Shell.enter
    dsimp only
    split <;> exact ⟨h.env, h.aliases⟩

end Session

/-- Lines that a shell is given at once: one of them, those of a stream, or those that a descriptor
of the shell leads to. -/
inductive Batch
  | line (text : Text)
  | stream (reader : Reader)
  | descriptor (number : Nat)

/-- Runs lines in the way that they are given. -/
def Shell.runBatch (programs : Programs) (sh : Shell) : Batch → Shell
  | .line text => sh.runLine (defaultFactories programs) text
  | .stream reader => sh.repl (defaultFactories programs) reader
  | .descriptor number => sh.replAll (defaultFactories programs) number

theorem Session.Invariant.runBatches {P : Session → Prop} (inv : Invariant P)
    (batches : List Batch) {sh : Shell} (h : P sh.session) :
    P (batches.foldl (Shell.runBatch programs) sh).session := by
  induction batches generalizing sh with
  | nil => exact h
  | cons batch rest ih =>
    refine ih ?_
    cases batch with
    | line text => exact inv.runLine text h
    | stream reader => exact inv.repl reader h
    | descriptor number => exact inv.replFrom number _ _ h

namespace Session

/-- Whatever is run, and whatever becomes of it, variables and aliases stay proper; under every name
a program is given what the shell finds there, once, and otherwise nothing. -/
theorem isCoherent_runBatches {pairs : List (Text × Text)} (hpairs : ∀ pair ∈ pairs, '=' ∉ pair.1)
    {sh : Shell} (henv : sh.session.env = .ofPairs pairs) (haliases : sh.session.aliases = {})
    (batches : List Batch) :
    let s := (batches.foldl (Shell.runBatch programs) sh).session
    s.IsCoherent ∧
      (∀ name, s.env.pairs.filter (·.1 = name) = ((s.env.get? name).map (name, ·)).toList) ∧
      (environmentOf s.env.pairs).Perm s.env.texts := by
  intro s
  have hstart : sh.session.IsCoherent := by
    refine ⟨?_, ?_⟩
    · rw [henv]
      exact Bindings.orderly_ofPairs hpairs
    · rw [haliases]
      exact .empty
  have hs : s.IsCoherent := isCoherent_invariant.runBatches batches hstart
  refine ⟨hs, Bindings.filter_pairs hs.env.distinct, ?_⟩
  rw [← hs.env.map_pairs]
  exact environmentOf_perm hs.env.distinct

/-- Refused definitions, a command that there is not and an error stream that fails change nothing
about that. -/
theorem isCoherent_after_refusals :
    let pairs : List (Text × Text) := [("HOME".toList, ['/']), (['A'], "b=c".toList)]
    let sh : Shell :=
      { session := { env := .ofPairs pairs }, streams := { err := { refusesWrites := true } } }
    let batches : List Batch :=
      [.line "setenv =x 1 || setenv A 2; alias ll=a =v m=b".toList,
        .stream ⟨Utf8.encode "nope\nunsetenv HOME x; alias g=git ll= -a".toList, false⟩]
    let s := (batches.foldl (Shell.runBatch .echo) sh).session
    s.env.texts = ["A=2".toList] ∧ s.aliases.texts = ["ll= -a".toList, "g=git".toList] ∧
      s.IsCoherent := by
  intro pairs sh batches s
  have hpairs : ∀ pair ∈ pairs, '=' ∉ pair.1 := by decide
  have henv : sh.session.env = .ofPairs pairs := rfl
  obtain ⟨hs, -⟩ := isCoherent_runBatches hpairs henv rfl batches
  refine ⟨?_, ?_, hs⟩
  · decide +kernel
  · decide +kernel

end Session
end LineShell
