import LineShell.Entries

/-!
Names with values, in the order in which the names were first set. The environment and the table of
aliases are of this kind. Each binding is stored as `name=value`, so a name that contains `=` is
never found again.
-/
namespace LineShell

structure Bindings where
  entries : Entries := {}
  deriving DecidableEq, Repr

namespace Bindings

def size (b : Bindings) : Nat := b.entries.size

def get? (b : Bindings) (name : Text) : Option Text := b.entries.value? name

/-- A name that is already set keeps its place. -/
def set (b : Bindings) (name value : Text) : Bindings :=
  let text := name ++ '=' :: value
  match b.entries.position? name >>= (b.entries.replace? · text) with
  | some entries => ⟨entries⟩
  | none => ⟨b.entries.push text 0⟩

/-- Takes a name out; `none` if it is not set. -/
def unset? (b : Bindings) (name : Text) : Option Bindings :=
  (b.entries.position? name >>= b.entries.remove?).map fun (_, entries) => ⟨entries⟩

def unset (b : Bindings) (name : Text) : Bindings := (b.unset? name).getD b

def ofPairs (pairs : List (Text × Text)) : Bindings :=
  pairs.foldl (fun b (name, value) => b.set name value) {}

/-- The bindings as they are stored, `name=value` each. -/
def texts (b : Bindings) : List Text := b.entries.texts

def pairs (b : Bindings) : List (Text × Text) := b.texts.filterMap (Text.cut? '=')

theorem key?_of_text {tag : Nat} {name : Text} (h : '=' ∉ name) (value : Text) :
    Entry.key? ⟨tag, name ++ '=' :: value⟩ = some name :=
  Entry.key?_eq_some_iff.2 ⟨h, value, rfl⟩

/-- Changing the value of the first entry with a key changes nothing that is found under another. -/
theorem find?_modify {xs : List Entry} {name : Text} {i : Nat}
    (hi : xs.findIdx? (·.key? == some name) = some i) (value other : Text) :
    (xs.modify i ({ · with text := name ++ '=' :: value })).find? (·.key? == some other) =
      if other = name then xs[i]?.map ({ · with text := name ++ '=' :: value })
      else xs.find? (·.key? == some other) := by
  induction xs generalizing i with
  | nil => simp at hi
  | cons x xs ih =>
    rw [List.findIdx?_cons] at hi
    split at hi
    next hx =>
      obtain rfl := Option.some.inj hi
      have hk : x.key? = some name := by simpa using hx
      have hn := (Entry.key?_eq_some_iff.1 hk).1
      simp only [List.modify_zero_cons, List.find?_cons, key?_of_text hn, hk]
      by_cases ho : other = name
      · simp [ho]
      · have hb : (name == other) = false := by simpa using Ne.symm ho
        simp [ho, hb]
    next hx =>
      obtain ⟨j, hj, rfl⟩ := Option.map_eq_some_iff.1 hi
      simp only [List.modify_succ_cons, List.find?_cons, List.getElem?_cons_succ, ih hj]
      by_cases ho : other = name
      · have hb : (x.key? == some other) = false := by simpa [ho] using hx
        simp only [ho, if_true] at hb ⊢
        rw [hb]
      · simp [ho]

theorem find?_set (b : Bindings) {name : Text} (h : '=' ∉ name) (value other : Text) :
    ((b.set name value).entries.find? other).map (·.text) =
      if other = name then some (name ++ '=' :: value)
      else (b.entries.find? other).map (·.text) := by
  unfold set
  cases hp : b.entries.position? name with
  | none =>
    have hf : b.entries.find? name = none := by
      rw [← Entries.position?_bind_get?, hp]
      rfl
    simp only [Option.bind_eq_bind, Option.bind_none, Entries.push, Entries.find?,
      List.find?_append, List.find?_singleton, key?_of_text h]
    by_cases ho : other = name
    · subst ho
      rw [Entries.find?] at hf
      simp [hf]
    · simp [ho, Ne.symm ho]
  | some i =>
    obtain ⟨hl, -⟩ := List.findIdx?_eq_some_iff_getElem.1 hp
    have hs : i < b.entries.size := hl
    simp only [Option.bind_eq_bind, Option.bind_some, Entries.replace?, if_pos hs, Entries.find?]
    rw [find?_modify hp]
    by_cases ho : other = name
    · simp [ho, List.getElem?_eq_getElem hl]
    · simp [ho]

theorem get?_eq (b : Bindings) (name : Text) :
    b.get? name = ((b.entries.find? name).map (·.text)).bind fun t =>
      (Text.cut? '=' t).map (·.2) := by
  rw [get?, Entries.value?_eq, Option.bind_map]
  rfl

/-- A name without `=` has the value that it was given last; every other name keeps its value. -/
theorem get?_set (b : Bindings) {name : Text} (h : '=' ∉ name) (value other : Text) :
    (b.set name value).get? other = if other = name then some value else b.get? other := by
  rw [get?_eq, find?_set b h, get?_eq]
  split
  · simp [Text.cut?_eq_some_iff.2 ⟨rfl, h⟩]
  · rfl

end Bindings
end LineShell
