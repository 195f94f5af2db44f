import LineShell.Builtin.Alias
import LineShell.Proofs.Words

/-!
Quotes and blanks. Words that are joined by single spaces are found again when the text is cut, and
so is a text in quotes whose blanks are single spaces.
-/
namespace LineShell

namespace Text

theorem isWord_append {a w : Text} (ha : ∀ c ∈ a, isBlank c = false) (hw : IsWord w) :
    IsWord (a ++ w) := by
  refine ⟨fun he => hw.1 (List.append_eq_nil_iff.1 he).2, fun c hc => ?_⟩
  rcases List.mem_append.1 hc with hc | hc
  · exact ha c hc
  · exact hw.2 c hc

/-! ### Joined words -/

theorem joined_singleton (sep part : Text) : joined sep [part] = part := by simp [joined]

theorem mem_joined {sep : Text} {parts : List Text} {c : Char} (h : c ∈ joined sep parts) :
    c ∈ sep ∨ ∃ part ∈ parts, c ∈ part := by
  induction parts with
  | nil => simp [joined] at h
  | cons part parts ih =>
    by_cases hparts : parts = []
    · subst hparts
      rw [joined_singleton] at h
      exact .inr ⟨part, List.mem_cons_self, h⟩
    · rw [joined_cons _ _ hparts, List.append_assoc] at h
      rcases List.mem_append.1 h with h | h
      · exact .inr ⟨part, List.mem_cons_self, h⟩
      rcases List.mem_append.1 h with h | h
      · exact .inl h
      rcases ih h with h | ⟨other, hm, h⟩
      · exact .inl h
      · exact .inr ⟨other, List.mem_cons_of_mem _ hm, h⟩

/-- The first part stands at the beginning. -/
theorem joined_eq_append (sep part : Text) (parts : List Text) :
    joined sep (part :: parts) = part ++ joined sep ([] :: parts) := by
  cases parts with
  | nil => rw [joined_singleton, joined_singleton, List.append_nil]
  | cons next parts => simp [joined_cons]

theorem words_joined {ws : List Text} (h : ∀ w ∈ ws, IsWord w) : words (joined [' '] ws) = ws := by
  induction ws with
  | nil => rfl
  | cons w ws ih =>
    obtain ⟨⟨hne, hw⟩, hws⟩ := List.forall_mem_cons.1 h
    by_cases hnil : ws = []
    · rw [hnil, joined_singleton, words_of_no_blank hne hw]
    · rw [joined_cons _ _ hnil, List.append_assoc, List.singleton_append,
        words_append_cons (by decide), words_of_no_blank hne hw, ih hws]
      rfl

/-! ### Single spaces -/

/-- Every blank is a space, with no blank behind it and no `=` in the rest of the text. -/
def Spaced : Text → Prop
  | [] => True
  | c :: rest =>
    (isBlank c → c = ' ' ∧ (∀ d ∈ rest.head?, isBlank d = false) ∧ '=' ∉ rest) ∧ Spaced rest

namespace Spaced

variable {t a b : Text}

theorem of_append_right (h : (a ++ b).Spaced) : b.Spaced := by
  induction a with
  | nil => exact h
  | cons c a ih => exact ih h.2

theorem of_append_left (h : (a ++ b).Spaced) : a.Spaced := by
  induction a with
  | nil => trivial
  | cons c a ih =>
    refine ⟨fun hc => ?_, ih h.2⟩
    obtain ⟨hspace, hhead, hequal⟩ := h.1 hc
    refine ⟨hspace, fun d hd => hhead d ?_, fun hm => hequal (List.mem_append_left b hm)⟩
    show d ∈ (a ++ b).head?
    rw [List.head?_append, hd]
    rfl

/-- Text without blanks in front of it may have an `=` in it. -/
theorem append_left (ha : ∀ c ∈ a, isBlank c = false) (h : b.Spaced) : (a ++ b).Spaced := by
  induction a with
  | nil => exact h
  | cons c a ih =>
    obtain ⟨hc, ha⟩ := List.forall_mem_cons.1 ha
    exact ⟨fun hblank => absurd hblank (by simp [hc]), ih ha⟩

theorem concat {c : Char} (hblank : isBlank c = false) (hequal : c ≠ '=') (h : t.Spaced) :
    (t ++ [c]).Spaced := by
  induction t with
  | nil => exact ⟨fun hc => absurd hc (by simp [hblank]), trivial⟩
  | cons d t ih =>
    refine ⟨fun hd => ?_, ih h.2⟩
    obtain ⟨hspace, hhead, hrest⟩ := h.1 hd
    refine ⟨hspace, fun e he => ?_, by simpa [Ne.symm hequal] using hrest⟩
    cases t with
    | nil => simpa [← Option.some.inj he] using hblank
    | cons f t => exact hhead e he

/-- Nothing is asked of the first of joined words, and it may be empty; behind it there is no `=`.
-/
theorem of_joined {x : Text} {xs : List Text} (hx : ∀ c ∈ x, isBlank c = false)
    (hxs : ∀ w ∈ xs, IsWord w ∧ '=' ∉ w) : (joined [' '] (x :: xs)).Spaced := by
  induction xs generalizing x with
  | nil =>
    rw [joined_singleton, ← List.append_nil x]
    exact append_left hx trivial
  | cons y ys ih =>
    obtain ⟨⟨hy, -⟩, hys⟩ := List.forall_mem_cons.1 hxs
    rw [joined_cons _ _ (List.cons_ne_nil y ys), List.append_assoc]
    refine append_left hx ⟨fun _ => ⟨rfl, fun d hd => ?_, fun hm => ?_⟩, ih hy.2 hys⟩
    · obtain ⟨c, y, rfl⟩ := List.exists_cons_of_ne_nil hy.1
      rw [joined_eq_append] at hd
      obtain rfl : c = d := Option.some.inj hd
      exact hy.2 c List.mem_cons_self
    · rcases mem_joined hm with hm | ⟨w, hw, hm⟩
      · simp at hm
      · exact (hxs w hw).2 hm

/-- A text that neither begins nor ends with a blank is made of words with single spaces between
them. -/
theorem exists_joined (h : t.Spaced) (hne : t ≠ []) (hhead : ∀ c ∈ t.head?, isBlank c = false)
    (hlast : ∀ c ∈ t.getLast?, isBlank c = false) :
    ∃ w ws, t = joined [' '] (w :: ws) ∧ IsWord w ∧ ∀ v ∈ ws, IsWord v ∧ '=' ∉ v := by
  induction t using parted_induction isBlank with
  | whole w hw => exact ⟨w, [], (joined_singleton _ w).symm, ⟨hne, hw⟩, by simp⟩
  | parted w c rest hw hc ih =>
    obtain ⟨hblank, hspaced⟩ : Spaced (c :: rest) := h.of_append_right
    obtain ⟨rfl, hrest, hequal⟩ := hblank hc
    have hwne : w ≠ [] := by
      rintro rfl
      exact absurd (hhead ' ' rfl) (by decide)
    have hrestne : rest ≠ [] := by
      rintro rfl
      exact absurd (hlast ' ' (by simp)) (by decide)
    have hrestlast : ∀ d ∈ rest.getLast?, isBlank d = false := by
      intro d hd
      refine hlast d ?_
      rw [List.getLast?_append, List.getLast?_cons, hd]
      rfl
    obtain ⟨v, vs, hjoined, hv, hvs⟩ := ih hspaced hrestne hrest hrestlast
    refine ⟨w, v :: vs, ?_, ⟨hwne, hw⟩, List.forall_mem_cons.2 ⟨⟨hv, fun hm => ?_⟩, hvs⟩⟩
    · rw [joined_cons _ _ (List.cons_ne_nil v vs), ← hjoined, List.append_assoc]
      rfl
    · rw [hjoined, joined_eq_append] at hequal
      exact hequal (List.mem_append_left _ hm)

end Spaced

/-! ### Quotes -/

theorem unwrap?_eq_some_iff {left right : Char} {t v : Text} :
    unwrap? left right t = some v ↔ t = left :: (v ++ [right]) := by
  cases t with
  | nil => simp [unwrap?]
  | cons c rest =>
    rw [unwrap?]
    constructor
    · intro h
      split at h
      next hends =>
        obtain ⟨rfl, hlast⟩ := hends
        obtain ⟨inner, rfl⟩ := List.getLast?_eq_some_iff.1 hlast
        simpa using h
      next => simp at h
    · intro he
      obtain ⟨rfl, rfl⟩ := List.cons.inj he
      simp

end Text

namespace Builtin

/-- What is left of a text without the quotes around it: what stands between two equal ones, or else
all of it. -/
inductive Unquoted : Text → Text → Prop
  | quoted {quote : Char} (known : quote = '\'' ∨ quote = '"') (value : Text) :
      Unquoted (quote :: (value ++ [quote])) value
  | bare {t : Text} (unquoted : ∀ quote value, quote = '\'' ∨ quote = '"' →
      t ≠ quote :: (value ++ [quote])) : Unquoted t t

theorem unquoted_unquote (t : Text) : Unquoted t (unquote t) := by
  unfold unquote
  split
  next inner h =>
    rw [Text.unwrap?_eq_some_iff.1 h]
    exact .quoted (.inl rfl) inner
  next hsingle =>
    cases hdouble : Text.unwrap? '"' '"' t with
    | some inner =>
      rw [Text.unwrap?_eq_some_iff.1 hdouble]
      exact .quoted (.inr rfl) inner
    | none =>
      refine .bare fun quote value known he => ?_
      rcases known with rfl | rfl
      · exact absurd (Text.unwrap?_eq_some_iff.2 he) (by simp [hsingle])
      · exact absurd (Text.unwrap?_eq_some_iff.2 he) (by simp [hdouble])

theorem Unquoted.spaced {t value : Text} (h : Unquoted t value) (ht : t.Spaced) : value.Spaced := by
  cases h with
  | quoted known value => exact ht.2.of_append_left
  | bare => exact ht

theorem unquote_quoted {quote : Char} (known : quote = '\'' ∨ quote = '"') (value : Text) :
    unquote (quote :: (value ++ [quote])) = value := by
  have hsame (quote : Char) : Text.unwrap? quote quote (quote :: (value ++ [quote])) = some value :=
    Text.unwrap?_eq_some_iff.2 rfl
  rcases known with rfl | rfl
  · rw [unquote, hsame]
  · have hother : Text.unwrap? '\'' '\'' ('"' :: (value ++ ['"'])) = none := rfl
    rw [unquote, hother, hsame]
    rfl

theorem unquote_eq_iff {t value : Text} : unquote t = value ↔ Unquoted t value := by
  constructor
  · rintro rfl
    exact unquoted_unquote t
  · rintro (⟨known, _⟩ | bare)
    · exact unquote_quoted known value
    · have h := unquoted_unquote t
      generalize unquote t = inner at h
      cases h with
      | quoted known inner => exact absurd rfl (bare _ inner known)
      | bare => rfl

end Builtin
end LineShell
