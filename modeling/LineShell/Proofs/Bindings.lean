import LineShell.Bindings
import Mathlib.Data.List.Nodup

/-!
Bindings with pairwise distinct names. Setting and unsetting keep them distinct, and then the pairs
that are handed on say the same as looking a name up.
-/
namespace LineShell

/-- Taking one element out is not noticed by a search that it does not satisfy. -/
theorem filter_eraseP_of_disjoint {α : Type} {p q : α → Bool} (h : ∀ x, p x → q x = false)
    (xs : List α) : (xs.eraseP p).filter q = xs.filter q := by
  induction xs with
  | nil => rfl
  | cons x xs ih =>
    by_cases hx : p x
    · rw [List.eraseP_cons_of_pos hx, List.filter_cons_of_neg (by simp [h x hx])]
    · rw [List.eraseP_cons_of_neg hx, List.filter_cons, List.filter_cons, ih]

theorem find?_eraseP_of_disjoint {α : Type} {p q : α → Bool} (h : ∀ x, p x → q x = false)
    (xs : List α) : (xs.eraseP p).find? q = xs.find? q := by
  rw [← List.head?_filter, filter_eraseP_of_disjoint h, List.head?_filter]

/-- Nor is changing one element that does not satisfy it, before or after. -/
theorem filter_modify_of_neg {α : Type} {q : α → Bool} {f : α → α} {xs : List α} {i : Nat}
    (hbefore : ∀ x ∈ xs[i]?, q x = false) (hafter : ∀ x ∈ xs[i]?, q (f x) = false) :
    (xs.modify i f).filter q = xs.filter q := by
  induction xs generalizing i with
  | nil => simp
  | cons x xs ih =>
    cases i with
    | zero =>
      have hx : q x = false := hbefore x rfl
      have hfx : q (f x) = false := hafter x rfl
      simp [hx, hfx]
    | succ i =>
      have hxs : (xs.modify i f).filter q = xs.filter q := ih hbefore hafter
      simp [List.filter_cons, hxs]

/-- Where no two elements have the same key, those with one key are the first of them. -/
theorem filter_eq_find?_of_nodup {α β : Type} [DecidableEq β] {key : α → β} {xs : List α}
    (h : (xs.map key).Nodup) (k : β) :
    xs.filter (key · = k) = (xs.find? (key · = k)).toList := by
  induction xs with
  | nil => rfl
  | cons x xs ih =>
    obtain ⟨hx, hxs⟩ := List.nodup_cons.1 h
    by_cases hk : key x = k
    · have hrest : xs.filter (key · = k) = [] := by
        refine List.filter_eq_nil_iff.2 fun y hy => ?_
        have hne : key y ≠ k := fun he => hx (hk ▸ he ▸ List.mem_map_of_mem hy)
        simpa using hne
      simp [hk, hrest]
    · simp [hk, ih hxs]

namespace Bindings

theorem eq_of_toList {b b' : Bindings} (h : b'.entries.toList = b.entries.toList) : b' = b := by
  obtain ⟨⟨es⟩⟩ := b
  obtain ⟨⟨es'⟩⟩ := b'
  obtain rfl : es' = es := h
  rfl

/-- The names that are set, in order; an entry without `=` has none. -/
def names (b : Bindings) : List Text := b.pairs.map (·.1)

theorem names_eq (b : Bindings) : b.names = b.entries.toList.filterMap Entry.key? := by
  rw [names, pairs, texts, Entries.texts, List.filterMap_map, List.map_filterMap]
  rfl

theorem mem_names_iff {b : Bindings} {name : Text} :
    name ∈ b.names ↔ ∃ e ∈ b.entries.toList, e.key? = some name := by
  rw [names_eq, List.mem_filterMap]

theorem not_mem_names_of_mem (b : Bindings) {name : Text} (h : '=' ∈ name) : name ∉ b.names := by
  intro hm
  obtain ⟨e, -, hkey⟩ := mem_names_iff.1 hm
  exact (Entry.key?_eq_some_iff.1 hkey).1 h

theorem position?_eq_none_iff {b : Bindings} {name : Text} :
    b.entries.position? name = none ↔ name ∉ b.names := by
  rw [Entries.position?, List.findIdx?_eq_none_iff, mem_names_iff]
  simp

theorem get?_eq_find? (b : Bindings) (name : Text) :
    b.get? name = (b.pairs.find? (·.1 = name)).map (·.2) := by
  rw [get?_eq, Entries.find?, pairs, texts, Entries.texts, List.filterMap_map]
  induction b.entries.toList with
  | nil => rfl
  | cons e es ih =>
    cases hc : Text.cut? '=' e.text with
    | none => simpa [List.find?_cons, Entry.key?, hc] using ih
    | some pair =>
      by_cases hn : pair.1 = name
      · simp [Entry.key?, hc, hn]
      · simpa [List.find?_cons, Entry.key?, hc, hn] using ih

theorem get?_eq_none_iff {b : Bindings} {name : Text} : b.get? name = none ↔ name ∉ b.names := by
  rw [get?_eq_find?, Option.map_eq_none_iff, List.find?_eq_none, names, List.mem_map]
  constructor
  · rintro h ⟨pair, hp, hn⟩
    exact h pair hp (by simpa using hn)
  · intro h pair hp hn
    exact h ⟨pair, hp, by simpa using hn⟩

/-- What is handed on under a name is what is found under it. -/
theorem filter_pairs {b : Bindings} (h : b.names.Nodup) (name : Text) :
    b.pairs.filter (·.1 = name) = ((b.get? name).map (name, ·)).toList := by
  rw [filter_eq_find?_of_nodup h, get?_eq_find?]
  cases hf : b.pairs.find? (·.1 = name) with
  | none => rfl
  | some pair =>
    have hn : pair.1 = name := by simpa using List.find?_some hf
    simp [← hn]

theorem get?_of_mem_pairs {b : Bindings} (h : b.names.Nodup) {name value : Text}
    (hm : (name, value) ∈ b.pairs) : b.get? name = some value := by
  have hfound : (name, value) ∈ b.pairs.filter (·.1 = name) := by simpa using hm
  rw [filter_pairs h] at hfound
  cases hget : b.get? name with
  | none => simp [hget] at hfound
  | some other => simp_all

theorem mem_pairs_of_get? {b : Bindings} {name value : Text} (h : b.get? name = some value) :
    (name, value) ∈ b.pairs := by
  rw [get?_eq_find?] at h
  obtain ⟨pair, hpair, rfl⟩ := Option.map_eq_some_iff.1 h
  have hname : pair.1 = name := by simpa using List.find?_some hpair
  rw [← hname]
  exact List.mem_of_find?_eq_some hpair

/-! ### Setting -/

theorem set_of_mem {b : Bindings} {name : Text} (h : name ∈ b.names) (value : Text) :
    ∃ i < b.entries.size, b.entries.position? name = some i ∧
      (b.set name value).entries.toList =
        b.entries.toList.modify i ({ · with text := name ++ '=' :: value }) := by
  obtain ⟨i, hi⟩ := Option.ne_none_iff_exists'.1 (mt position?_eq_none_iff.1 (not_not_intro h))
  obtain ⟨hlt, -⟩ := List.findIdx?_eq_some_iff_getElem.1 hi
  have hlt : i < b.entries.size := hlt
  refine ⟨i, hlt, hi, ?_⟩
  simp [set, hi, Entries.replace?, hlt]

theorem set_of_not_mem {b : Bindings} {name : Text} (h : name ∉ b.names) (value : Text) :
    (b.set name value).entries.toList = b.entries.toList ++ [⟨0, name ++ '=' :: value⟩] := by
  simp [set, position?_eq_none_iff.2 h, Entries.push]

/-- A name that is given the value that it has stays as it is. -/
theorem set_eq_self {b : Bindings} {name value : Text} (h : b.get? name = some value) :
    b.set name value = b := by
  obtain ⟨-, e, hfound, htext⟩ := Entries.value?_eq_some_iff.1 h
  have hm : name ∈ b.names := by
    refine not_not.1 fun hnot => ?_
    rw [get?_eq_none_iff.2 hnot] at h
    simp at h
  obtain ⟨i, -, hi, hset⟩ := set_of_mem hm value
  have he : b.entries.toList[i]? = some e := by
    rw [← Entries.position?_bind_get?, hi] at hfound
    exact hfound
  have hsame : ({ e with text := name ++ '=' :: value } : Entry) = e := by rw [← htext]
  have hlist : (b.set name value).entries.toList = b.entries.toList := by
    rw [hset]
    refine List.ext_getElem? fun j => ?_
    by_cases hj : i = j
    · simp [← hj, he, hsame]
    · simp [hj]
  exact eq_of_toList hlist

theorem mem_texts_set {b : Bindings} {name value t : Text} (h : t ∈ (b.set name value).texts) :
    t = name ++ '=' :: value ∨ t ∈ b.texts := by
  obtain ⟨e, he, rfl⟩ := List.mem_map.1 h
  by_cases hm : name ∈ b.names
  · obtain ⟨i, -, -, hs⟩ := set_of_mem hm value
    rw [hs] at he
    obtain ⟨j, hj⟩ := List.mem_iff_getElem?.1 he
    rw [List.getElem?_modify] at hj
    obtain ⟨old, hold, rfl⟩ := Option.map_eq_some_iff.1 hj
    split
    · exact .inl rfl
    · exact .inr (List.mem_map_of_mem (List.mem_of_getElem? hold))
  · rw [set_of_not_mem hm] at he
    rcases List.mem_append.1 he with he | he
    · exact .inr (List.mem_map_of_mem he)
    · obtain rfl := List.mem_singleton.1 he
      exact .inl rfl

/-- Changing the value of the first entry with a key changes no key. -/
theorem keys_modify {es : List Entry} {name : Text} (h : '=' ∉ name) {i : Nat}
    (hi : es.findIdx? (·.key? == some name) = some i) (value : Text) :
    (es.modify i ({ · with text := name ++ '=' :: value })).filterMap Entry.key? =
      es.filterMap Entry.key? := by
  induction es generalizing i with
  | nil => simp at hi
  | cons e es ih =>
    rw [List.findIdx?_cons] at hi
    split at hi
    next he =>
      obtain rfl := Option.some.inj hi
      have hk : e.key? = some name := by simpa using he
      simp [key?_of_text h, hk]
    next he =>
      obtain ⟨j, hj, rfl⟩ := Option.map_eq_some_iff.1 hi
      simp [List.filterMap_cons, ih hj]

/-- A name that is set keeps its place, and a new one comes last. -/
theorem names_set (b : Bindings) {name : Text} (h : '=' ∉ name) (value : Text) :
    (b.set name value).names = if name ∈ b.names then b.names else b.names ++ [name] := by
  split
  next hm =>
    obtain ⟨i, -, hi, hs⟩ := set_of_mem hm value
    rw [names_eq, names_eq, hs, keys_modify h hi]
  next hm =>
    rw [names_eq, set_of_not_mem hm, names_eq]
    simp [key?_of_text h]

theorem nodup_set {b : Bindings} (hb : b.names.Nodup) {name : Text} (h : '=' ∉ name)
    (value : Text) : (b.set name value).names.Nodup := by
  rw [names_set b h]
  split
  · exact hb
  next hm => exact List.nodup_append'.2 ⟨hb, List.nodup_singleton _, by simpa using hm⟩

/-! ### Unsetting -/

theorem unset_toList (b : Bindings) (name : Text) :
    (b.unset name).entries.toList = b.entries.toList.eraseP (·.key? == some name) := by
  rw [List.eraseP_eq_eraseIdx]
  unfold unset unset? Entries.position?
  cases hi : b.entries.toList.findIdx? (·.key? == some name) with
  | none => rfl
  | some i =>
    obtain ⟨hlt, -⟩ := List.findIdx?_eq_some_iff_getElem.1 hi
    simp [Entries.remove?, Entries.get?, hlt]

theorem isSome_unset?_iff {b : Bindings} {name : Text} :
    (b.unset? name).isSome ↔ name ∈ b.names := by
  rw [← not_iff_not, ← position?_eq_none_iff, unset?]
  cases hi : b.entries.position? name with
  | none => simp
  | some i =>
    obtain ⟨hlt, -⟩ := List.findIdx?_eq_some_iff_getElem.1 hi
    simp [Entries.remove?, Entries.get?, hlt]

theorem texts_unset_sublist (b : Bindings) (name : Text) :
    (b.unset name).texts.Sublist b.texts := by
  unfold texts Entries.texts
  rw [unset_toList]
  exact List.eraseP_sublist.map _

theorem names_unset (b : Bindings) (name : Text) : (b.unset name).names = b.names.erase name := by
  rw [names_eq, names_eq, unset_toList]
  induction b.entries.toList with
  | nil => rfl
  | cons e es ih =>
    cases hk : e.key? with
    | none => simp [hk, ih]
    | some key =>
      by_cases hn : key = name
      · simp [hk, hn]
      · simp [hk, hn, ih]

theorem nodup_unset {b : Bindings} (hb : b.names.Nodup) (name : Text) :
    (b.unset name).names.Nodup := by
  rw [names_unset]
  exact hb.erase name

/-- The other names keep their values. -/
theorem get?_unset_of_ne (b : Bindings) {name other : Text} (h : other ≠ name) :
    (b.unset name).get? other = b.get? other := by
  rw [get?_eq, get?_eq, Entries.find?, Entries.find?, unset_toList,
    find?_eraseP_of_disjoint fun e he => by simp_all [Ne.symm h]]

theorem get?_unset_self {b : Bindings} (hb : b.names.Nodup) (name : Text) :
    (b.unset name).get? name = none := by
  rw [get?_eq_none_iff, names_unset]
  exact hb.not_mem_erase

/-! ### What is left alone -/

/-- The entries of all names but these, in order. An entry without `=` has no name. -/
def except (b : Bindings) (names : List Text) : List Entry :=
  b.entries.toList.filter fun e => ∀ name ∈ names, e.key? ≠ some name

theorem except_nil (b : Bindings) : b.except [] = b.entries.toList := by simp [except]

/-- Bindings that have all entries in common are the same. -/
theorem eq_of_except_nil {b b' : Bindings} (h : b'.except [] = b.except []) : b' = b := by
  rw [except_nil, except_nil] at h
  exact eq_of_toList h

/-- What is left alone is found as it was. -/
theorem get?_eq_of_except {b b' : Bindings} {names : List Text}
    (h : b'.except names = b.except names) {other : Text} (hother : other ∉ names) :
    b'.get? other = b.get? other := by
  have hfind (b : Bindings) :
      (b.except names).find? (·.key? == some other) = b.entries.find? other := by
    rw [except, List.find?_filter, Entries.find?]
    congr 1
    funext e
    by_cases hkey : e.key? = some other
    · have hleft : ∀ name ∈ names, other ≠ name := fun name hm he => hother (he ▸ hm)
      simpa [hkey] using hleft
    · simp [hkey]
  rw [get?_eq, get?_eq, ← hfind, ← hfind, h]

theorem except_set (b : Bindings) {name : Text} (h : '=' ∉ name) (value : Text)
    {names : List Text} (hm : name ∈ names) : (b.set name value).except names = b.except names := by
  have hnew (tag : Nat) :
      decide (∀ other ∈ names, Entry.key? ⟨tag, name ++ '=' :: value⟩ ≠ some other) = false := by
    rw [key?_of_text h]
    simpa using hm
  unfold except
  by_cases hset : name ∈ b.names
  · obtain ⟨i, -, hi, hs⟩ := set_of_mem hset value
    rw [hs]
    refine filter_modify_of_neg (fun e he => ?_) fun e _ => hnew e.tag
    have hkey : e.key? = some name := by
      have hfound : b.entries.toList.find? (·.key? == some name) = some e := by
        rw [← bind_findIdx?, show b.entries.toList.findIdx? _ = some i from hi]
        exact he
      simpa using List.find?_some hfound
    simpa [hkey] using hm
  · rw [set_of_not_mem hset, List.filter_append, List.filter_singleton, hnew]
    simp

theorem except_unset (b : Bindings) {name : Text} {names : List Text} (hm : name ∈ names) :
    (b.unset name).except names = b.except names := by
  unfold except
  rw [unset_toList]
  refine filter_eraseP_of_disjoint (fun e he => ?_) _
  have hkey : e.key? = some name := by simpa using he
  simpa [hkey] using hm

end Bindings
end LineShell
