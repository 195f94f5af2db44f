import LineShell.Text.Basic

/-! Texts with a number each, in the order in which they were stored. -/
namespace LineShell

/-- The element at the first index that satisfies `p` is the first that does. -/
theorem bind_findIdx? {α : Type} (p : α → Bool) (xs : List α) :
    (xs.findIdx? p).bind (xs[·]?) = xs.find? p := by
  induction xs with
  | nil => rfl
  | cons x xs ih =>
    rw [List.findIdx?_cons, List.find?_cons]
    split
    next h => simp [h]
    next h =>
      rw [Bool.not_eq_true] at h
      rw [Option.bind_map, h, ← ih]
      rfl

/-- The tag is the number of a history entry; other tables keep 0. -/
structure Entry where
  tag : Nat
  text : Text
  deriving DecidableEq, Repr

/-- The key of a `key=value` text: what stands before its first `=`. -/
def Entry.key? (e : Entry) : Option Text := (Text.cut? '=' e.text).map (·.1)

theorem Entry.key?_eq_some_iff {e : Entry} {key : Text} :
    e.key? = some key ↔ '=' ∉ key ∧ ∃ value, e.text = key ++ '=' :: value := by
  unfold Entry.key?
  constructor
  · intro h
    obtain ⟨⟨a, b⟩, hc, rfl⟩ := Option.map_eq_some_iff.1 h
    obtain ⟨ht, hn⟩ := Text.cut?_eq_some_iff.1 hc
    exact ⟨hn, b, ht⟩
  · rintro ⟨hn, b, ht⟩
    rw [Text.cut?_eq_some_iff.2 ⟨ht, hn⟩]
    rfl

def Entry.value? (e : Entry) : Option Text := (Text.cut? '=' e.text).map (·.2)

theorem Text.dropBytes?_key (key value : Text) :
    Text.dropBytes? (key ++ '=' :: value) (key.byteLength + 1) = some value := by
  have h := Text.dropBytes?_append (key ++ ['=']) value
  rwa [Text.byteLength_append, List.append_assoc] at h

structure Entries where
  toList : List Entry := []
  deriving DecidableEq, Repr

namespace Entries

def size (es : Entries) : Nat := es.toList.length

def push (es : Entries) (text : Text) (tag : Nat) : Entries := ⟨es.toList ++ [⟨tag, text⟩]⟩

def get? (es : Entries) (i : Nat) : Option Entry := es.toList[i]?

/-- The index of the first entry with this key. A key that contains `=` is the key of none. -/
def position? (es : Entries) (key : Text) : Option Nat :=
  es.toList.findIdx? (·.key? == some key)

/-- The value of the first entry with this key: what is left of its text behind the key and `=`. -/
def value? (es : Entries) (key : Text) : Option Text := do
  let i ← es.position? key
  let e ← es.get? i
  e.text.dropBytes? (key.byteLength + 1)

/-- Changes a text and keeps its place and tag; `none` if there is no such entry. -/
def replace? (es : Entries) (i : Nat) (text : Text) : Option Entries :=
  if i < es.size then some ⟨es.toList.modify i ({ · with text })⟩ else none

def remove? (es : Entries) (i : Nat) : Option (Entry × Entries) :=
  (es.get? i).map fun e => (e, ⟨es.toList.eraseIdx i⟩)

def latest (es : Entries) (cap : Nat) : Entries := ⟨es.toList.drop (es.size - cap)⟩

def renumber (es : Entries) : Entries := ⟨es.toList.mapIdx fun i e => { e with tag := i }⟩

def texts (es : Entries) : List Text := es.toList.map (·.text)

def find? (es : Entries) (key : Text) : Option Entry := es.toList.find? (·.key? == some key)

theorem position?_bind_get? (es : Entries) (key : Text) :
    (es.position? key).bind es.get? = es.find? key := bind_findIdx? _ _

/-- The value of a key stands in the first entry with that key, behind its first `=`. -/
theorem value?_eq (es : Entries) (key : Text) :
    es.value? key = (es.find? key).bind Entry.value? := by
  have h : es.value? key =
      ((es.position? key).bind es.get?).bind (·.text.dropBytes? (key.byteLength + 1)) := by
    rw [Option.bind_assoc]
    rfl
  rw [h, position?_bind_get?]
  cases he : es.find? key with
  | none => rfl
  | some e =>
    have hk : e.key? = some key := by simpa using List.find?_some he
    obtain ⟨hn, value, ht⟩ := Entry.key?_eq_some_iff.1 hk
    simp [Entry.value?, ht, Text.dropBytes?_key, Text.cut?_eq_some_iff.2 ⟨rfl, hn⟩]

theorem value?_eq_some_iff {es : Entries} {key value : Text} :
    es.value? key = some value ↔
      '=' ∉ key ∧ ∃ e, es.find? key = some e ∧ e.text = key ++ '=' :: value := by
  rw [value?_eq]
  constructor
  · intro h
    obtain ⟨e, he, hv⟩ := Option.bind_eq_some_iff.1 h
    have hk : e.key? = some key := by simpa using List.find?_some he
    obtain ⟨hn, w, ht⟩ := Entry.key?_eq_some_iff.1 hk
    refine ⟨hn, e, he, ?_⟩
    have hw : w = value := by
      simpa [Entry.value?, Text.cut?_eq_some_iff.2 ⟨ht, hn⟩] using hv
    rw [ht, hw]
  · rintro ⟨hn, e, he, ht⟩
    simp [he, Entry.value?, Text.cut?_eq_some_iff.2 ⟨ht, hn⟩]

end Entries
end LineShell
