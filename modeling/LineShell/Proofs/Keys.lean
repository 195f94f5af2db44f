import LineShell.Entries
import LineShell.Proofs.Offsets

/-!
Entries that are found by their keys. The place of an entry and its value are found apart, the value
as what is left behind the bytes of the key.
-/
namespace LineShell.Entries

/-- Entry `i` has the key and this value, and no entry in front of it has the key. -/
structure FirstAt (es : Entries) (key value : Text) (i : Nat) : Prop where
  plain : '=' ∉ key
  text : es.texts[i]? = some (key ++ '=' :: value)
  first : ∀ j < i, ∀ other, es.texts[j]? ≠ some (key ++ '=' :: other)

variable {es : Entries} {key value : Text} {i : Nat}

theorem getElem?_texts_eq_some_iff {t : Text} :
    es.texts[i]? = some t ↔ ∃ e, es.get? i = some e ∧ e.text = t := by
  rw [texts, List.getElem?_map, Option.map_eq_some_iff]
  rfl

theorem key?_of_getElem?_texts {h : i < es.toList.length} (hplain : '=' ∉ key)
    (htext : es.texts[i]? = some (key ++ '=' :: value)) : es.toList[i].key? = some key := by
  obtain ⟨e, he, hkey⟩ := getElem?_texts_eq_some_iff.1 htext
  obtain ⟨hlt, rfl⟩ := List.getElem?_eq_some_iff.1 he
  exact Entry.key?_eq_some_iff.2 ⟨hplain, value, hkey⟩

theorem position?_eq_some_iff : es.position? key = some i ↔ ∃ value, FirstAt es key value i := by
  rw [position?, List.findIdx?_eq_some_iff_getElem]
  simp only [beq_iff_eq]
  constructor
  · rintro ⟨hlt, hkey, hfirst⟩
    obtain ⟨hplain, value, htext⟩ := Entry.key?_eq_some_iff.1 hkey
    refine ⟨value, hplain, ?_, fun j hj other hother => ?_⟩
    · exact getElem?_texts_eq_some_iff.2 ⟨_, List.getElem?_eq_getElem hlt, htext⟩
    · exact hfirst j hj (key?_of_getElem?_texts hplain hother)
  · rintro ⟨value, hplain, htext, hfirst⟩
    obtain ⟨e, he, -⟩ := getElem?_texts_eq_some_iff.1 htext
    obtain ⟨hlt, -⟩ := List.getElem?_eq_some_iff.1 he
    refine ⟨hlt, key?_of_getElem?_texts hplain htext, fun j hj hkey => ?_⟩
    obtain ⟨-, other, hother⟩ := Entry.key?_eq_some_iff.1 hkey
    have hjlt : j < es.toList.length := Nat.lt_trans hj hlt
    exact hfirst j hj other
      (getElem?_texts_eq_some_iff.2 ⟨_, List.getElem?_eq_getElem hjlt, hother⟩)

/-- Behind the key and the equals sign the text can be cut, whatever characters the key has. -/
theorem FirstAt.exists_cut (h : FirstAt es key value i) :
    ∃ e, es.get? i = some e ∧
      Text.CutsAt e.text (key.byteLength + 1) (key ++ ['=']) value ∧
      es.value? key = some value := by
  obtain ⟨e, he, htext⟩ := getElem?_texts_eq_some_iff.1 h.text
  have hcut : Text.CutsAt e.text (key.byteLength + 1) (key ++ ['=']) value := by
    refine Text.cutsAt_iff.2 ⟨?_, ?_⟩
    · rw [htext, List.append_assoc]
      rfl
    · rw [Text.byteLength_append]
      rfl
  have hi : es.position? key = some i := position?_eq_some_iff.2 ⟨value, h⟩
  refine ⟨e, he, hcut, ?_⟩
  calc
    es.value? key = e.text.dropBytes? (key.byteLength + 1) := by simp [value?, hi, he]
    _ = some value := Text.dropBytes?_eq_some_iff.2 ⟨_, hcut⟩

theorem value?_eq_some_iff_firstAt : es.value? key = some value ↔ ∃ i, FirstAt es key value i := by
  constructor
  · intro h
    obtain ⟨i, hi, -⟩ := Option.bind_eq_some_iff.1 h
    obtain ⟨other, hfirst⟩ := position?_eq_some_iff.1 hi
    obtain ⟨-, -, -, hother⟩ := hfirst.exists_cut
    obtain rfl := Option.some.inj (hother.symm.trans h)
    exact ⟨i, hfirst⟩
  · rintro ⟨i, hfirst⟩
    obtain ⟨-, -, -, hvalue⟩ := hfirst.exists_cut
    exact hvalue

/-- Where any entry has the key, one of them is the first. -/
theorem exists_firstAt_iff :
    (∃ value i, FirstAt es key value i) ↔ '=' ∉ key ∧ ∃ value, key ++ '=' :: value ∈ es.texts := by
  constructor
  · rintro ⟨value, i, hplain, htext, -⟩
    exact ⟨hplain, value, List.mem_of_getElem? htext⟩
  · rintro ⟨hplain, value, hmem⟩
    obtain ⟨e, he, htext⟩ := List.mem_map.1 hmem
    have hkey : e.key? = some key := Entry.key?_eq_some_iff.2 ⟨hplain, value, htext⟩
    have hfound : es.position? key ≠ none := by
      intro hnone
      have hother := List.findIdx?_eq_none_iff.1 hnone e he
      simp [hkey] at hother
    obtain ⟨i, hi⟩ := Option.ne_none_iff_exists'.1 hfound
    obtain ⟨first, hfirst⟩ := position?_eq_some_iff.1 hi
    exact ⟨first, i, hfirst⟩

/-- A lookup finds the first entry with the key, and its place and its value are found together. The
text is never cut inside a character or behind its end, and a key with an equals sign in it is the
key of no entry. -/
theorem lookup_firstAt (es : Entries) (key : Text) :
    (∀ i, es.position? key = some i → ∃ e value, es.get? i = some e ∧
        Text.CutsAt e.text (key.byteLength + 1) (key ++ ['=']) value ∧
        es.value? key = some value) ∧
      (∀ value, es.value? key = some value ↔ ∃ i, FirstAt es key value i) ∧
      (∀ i, es.position? key = some i ↔ ∃ value, FirstAt es key value i) ∧
      ((∃ value, es.value? key = some value) ↔
        '=' ∉ key ∧ ∃ value, key ++ '=' :: value ∈ es.texts) ∧
      ('=' ∈ key → es.position? key = none ∧ es.value? key = none) := by
  refine ⟨fun i hi => ?_, fun value => value?_eq_some_iff_firstAt,
    fun i => position?_eq_some_iff, ?_, fun hequal => ?_⟩
  · obtain ⟨value, hfirst⟩ := position?_eq_some_iff.1 hi
    obtain ⟨e, hfound⟩ := hfirst.exists_cut
    exact ⟨e, value, hfound⟩
  · simp only [value?_eq_some_iff_firstAt, exists_firstAt_iff]
  · constructor
    · refine Option.eq_none_iff_forall_ne_some.2 fun i hi => ?_
      obtain ⟨value, hfirst⟩ := position?_eq_some_iff.1 hi
      exact hfirst.plain hequal
    · refine Option.eq_none_iff_forall_ne_some.2 fun value hvalue => ?_
      obtain ⟨i, hfirst⟩ := value?_eq_some_iff_firstAt.1 hvalue
      exact hfirst.plain hequal

/-- A key of more than one byte stands twice, and the value of the first has an equals sign. -/
theorem lookup_firstAt_wide :
    let es : Entries :=
      ⟨[⟨0, ['é']⟩, ⟨3, "é=1=é".toList⟩, ⟨0, "=x".toList⟩, ⟨1, "é=2".toList⟩]⟩
    es.position? ['é'] = some 1 ∧ FirstAt es ['é'] "1=é".toList 1 ∧
      Text.CutsAt "é=1=é".toList 3 "é=".toList "1=é".toList ∧ '=' ∈ "é=1".toList ∧
      es.position? "é=1".toList = none ∧ es.value? "é=1".toList = none := by
  intro es
  obtain ⟨hcut, -, hfirst, -⟩ := lookup_firstAt es ['é']
  obtain ⟨-, -, -, -, hequal⟩ := lookup_firstAt es "é=1".toList
  have hposition : es.position? ['é'] = some 1 := by decide
  have hmem : '=' ∈ "é=1".toList := by decide
  have hvalue : es.value? ['é'] = some "1=é".toList := by decide
  obtain ⟨e, value, he, hcuts, hfound⟩ := hcut 1 hposition
  obtain rfl := Option.some.inj (hvalue.symm.trans hfound)
  obtain rfl : ⟨3, "é=1=é".toList⟩ = e := Option.some.inj he
  refine ⟨hposition, ?_, hcuts, hmem, hequal hmem⟩
  obtain ⟨other, hother⟩ := (hfirst 1).1 hposition
  have htext : some "é=1=é".toList = some ('é' :: '=' :: other) := hother.text
  obtain rfl : "1=é".toList = other := by simpa using htext
  exact hother

end LineShell.Entries
