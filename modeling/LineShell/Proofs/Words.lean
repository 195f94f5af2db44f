import LineShell.Word
import Mathlib.Data.List.TakeWhile

/-!
The words of a text that is put together from others. A text has one list of words only that it can
be put together from, and it is the list that the text is cut into.
-/
namespace LineShell

theorem takeWhile_append_cons {α : Type} {p : α → Bool} {x : α} (h : p x = false) (xs ys : List α) :
    (xs ++ x :: ys).takeWhile p = xs.takeWhile p := by
  induction xs with
  | nil => simp [h]
  | cons y xs ih => simp [List.takeWhile_cons, ih]

theorem dropWhile_append_cons {α : Type} {p : α → Bool} {x : α} (h : p x = false) (xs ys : List α) :
    (xs ++ x :: ys).dropWhile p = xs.dropWhile p ++ x :: ys := by
  induction xs with
  | nil => simp [h]
  | cons y xs ih =>
    simp only [List.cons_append, List.dropWhile_cons, ih]
    split <;> rfl

/-- The longest front of a list whose elements all have a property. -/
structure IsLongestFront {α : Type} (p : α → Prop) (front whole : List α) : Prop where
  initial : front <+: whole
  holds : ∀ x ∈ front, p x
  longest : ∀ other, other <+: whole → (∀ x ∈ other, p x) → other <+: front

theorem isLongestFront_append {α : Type} {p : α → Prop} {front rest : List α}
    (hfront : ∀ x ∈ front, p x) (hrest : ∀ x ∈ rest.head?, ¬ p x) :
    IsLongestFront p front (front ++ rest) where
  initial := List.prefix_append _ _
  holds := hfront
  longest := by
    intro other hother hall
    rcases List.prefix_or_prefix_of_prefix hother (List.prefix_append front rest) with h | h
    · exact h
    -- What stands behind the front fails with its first element.
    obtain ⟨more, rfl⟩ := h
    cases more with
    | nil => simp
    | cons x more =>
      obtain ⟨behind, hbehind⟩ := (List.prefix_append_right_inj front).1 hother
      have hx : x ∈ rest.head? := by simp [← hbehind]
      exact absurd (hall x (by simp)) (hrest x hx)

theorem isLongestFront_takeWhile {α : Type} (p : α → Bool) (xs : List α) :
    IsLongestFront (p · = true) (xs.takeWhile p) xs := by
  have hstops : ∀ x ∈ (xs.dropWhile p).head?, ¬ p x = true := by
    intro x hx
    have h := List.head?_dropWhile_not p xs
    rw [hx] at h
    simpa using h
  have hholds : ∀ x ∈ xs.takeWhile p, p x = true := fun x hx => List.mem_takeWhile_imp hx
  have h := isLongestFront_append hholds hstops
  rwa [List.takeWhile_append_dropWhile] at h

theorem isBlank_iff {c : Char} : isBlank c ↔ c = ' ' ∨ c = '\t' := by simp [isBlank]

namespace Text

theorem words_cons_blank {c : Char} (hc : isBlank c) (t : Text) : words (c :: t) = words t :=
  words_append_cons hc [] t

theorem words_of_blanks {t : Text} (h : ∀ c ∈ t, isBlank c) : words t = [] := by
  induction t with
  | nil => rfl
  | cons c t ih =>
    obtain ⟨hc, ht⟩ := List.forall_mem_cons.1 h
    rw [words_cons_blank hc, ih ht]

theorem words_of_no_blank {w : Text} (hne : w ≠ []) (h : ∀ c ∈ w, isBlank c = false) :
    words w = [w] := by
  rw [words, splitWhere_of_forall h]
  simp [hne]

theorem words_blanks_append {a : Text} (ha : ∀ c ∈ a, isBlank c) (t : Text) :
    words (a ++ t) = words t := by
  induction a with
  | nil => rfl
  | cons c a ih =>
    obtain ⟨hc, ha⟩ := List.forall_mem_cons.1 ha
    rw [List.cons_append, words_cons_blank hc, ih ha]

/-- Words do not grow together where a text begins with a blank, or is empty. -/
theorem words_append {a b : Text} (hb : ∀ c ∈ b.head?, isBlank c) :
    words (a ++ b) = words a ++ words b := by
  cases b with
  | nil => simp [show words [] = [] from rfl]
  | cons c b =>
    have hc : isBlank c := hb c rfl
    rw [words_append_cons hc, words_cons_blank hc]

theorem words_append_blanks (t : Text) {trail : Text} (h : ∀ c ∈ trail, isBlank c) :
    words (t ++ trail) = words t := by
  rw [words_append fun c hc => h c (List.mem_of_mem_head? hc), words_of_blanks h, List.append_nil]

/-- What keeps blanks where they are, and parts its argument at them, works on each word. -/
theorem words_of_parting {f : Text → Text} (hnil : f [] = [])
    (hf : ∀ a c b, isBlank c → f (a ++ c :: b) = f a ++ c :: f b) (t : Text) :
    words (f t) = t.words.flatMap fun w => words (f w) := by
  have word (w : Text) (hw : ∀ c ∈ w, isBlank c = false) :
      words (f w) = w.words.flatMap fun w => words (f w) := by
    by_cases h : w = []
    · subst h
      rw [hnil]
      rfl
    · rw [words_of_no_blank h hw, List.flatMap_singleton]
  induction t using parted_induction isBlank with
  | whole w hw => exact word w hw
  | parted w c rest hw hc ih =>
    rw [hf w c rest hc, words_append_cons hc, words_append_cons hc, List.flatMap_append,
      word w hw, ih]

/-! ### The first word -/

def behindFirst (t : Text) : Text := (t.dropWhile isBlank).dropWhile (!isBlank ·)

theorem behindFirst_head (t : Text) : ∀ c ∈ (behindFirst t).head?, isBlank c := by
  intro c hc
  have h := List.head?_dropWhile_not (!isBlank ·) (t.dropWhile isBlank)
  rw [← behindFirst, hc] at h
  simpa using h

/-- The first word stands between the blanks in front of it and the text behind it. -/
theorem eq_of_firstWord? {t word : Text} {start : Nat} (h : t.firstWord? = some (start, word)) :
    word ≠ [] ∧ (∀ c ∈ word, isBlank c = false) ∧ byteLength (t.takeWhile isBlank) = start ∧
      t.takeWhile isBlank ++ (word ++ behindFirst t) = t := by
  unfold firstWord? at h
  split at h
  · simp at h
  next rest hne =>
    obtain ⟨hstart, hw⟩ := by simpa using h
    have hblank : ∀ c ∈ word, isBlank c = false := by
      intro c hc
      rw [← hw] at hc
      simpa using List.mem_takeWhile_imp hc
    have hwne : word ≠ [] := by
      obtain ⟨c, more, hd⟩ := List.exists_cons_of_ne_nil hne
      have hc := List.head?_dropWhile_not isBlank t
      rw [hd] at hc hw
      have hcb : isBlank c = false := by simpa using hc
      rw [← hw, List.takeWhile_cons, hcb]
      simp
    have hd : word ++ behindFirst t = t.dropWhile isBlank := by
      rw [← hw, behindFirst, List.takeWhile_append_dropWhile]
    refine ⟨hwne, hblank, hstart, ?_⟩
    rw [hd, List.takeWhile_append_dropWhile]

theorem words_of_firstWord? {t word : Text} {start : Nat} (h : t.firstWord? = some (start, word)) :
    words t = word :: words (behindFirst t) := by
  obtain ⟨hne, hw, -, ht⟩ := eq_of_firstWord? h
  have hblanks : ∀ c ∈ t.takeWhile isBlank, isBlank c := fun c hc => List.mem_takeWhile_imp hc
  calc
    words t = words (t.takeWhile isBlank ++ (word ++ behindFirst t)) := by rw [ht]
    _ = words (word ++ behindFirst t) := words_blanks_append hblanks _
    _ = word :: words (behindFirst t) := by
      rw [words_append (behindFirst_head t), words_of_no_blank hne hw]
      rfl

theorem firstWord?_eq_none_iff {t : Text} : t.firstWord? = none ↔ words t = [] := by
  constructor
  · intro h
    unfold firstWord? at h
    split at h
    next hd => exact words_of_blanks (List.dropWhile_eq_nil_iff.1 hd)
    · simp at h
  · intro h
    refine Option.eq_none_iff_forall_ne_some.2 fun (start, word) hfound => ?_
    rw [words_of_firstWord? hfound] at h
    exact List.cons_ne_nil _ _ h

/-! ### Words that are spaced out -/

def IsGap (gap : Text) : Prop := ∀ c ∈ gap, c = ' ' ∨ c = '\t'

/-- What a text is cut into: something without blanks. -/
def IsWord (w : Text) : Prop := w ≠ [] ∧ ∀ c ∈ w, isBlank c = false

instance (w : Text) : Decidable w.IsWord :=
  decidable_of_iff (w ≠ [] ∧ w.all (!isBlank ·)) (by simp [IsWord])

/-- Words in order, with a gap between neighbours that is not empty. -/
inductive Separated : List Text → Text → Prop
  | none : Separated [] []
  | last {w : Text} (hw : IsWord w) : Separated [w] w
  | before {w gap v t : Text} {ws : List Text} (hw : IsWord w) (hgap : IsGap gap)
      (hne : gap ≠ []) (hrest : Separated (v :: ws) t) : Separated (w :: v :: ws) (w ++ gap ++ t)

/-- Words in order, separated, with gaps at both ends that may be empty. -/
def SpacedOut (ws : List Text) (t : Text) : Prop :=
  ∃ lead body trail, t = lead ++ body ++ trail ∧ IsGap lead ∧ Separated ws body ∧ IsGap trail

theorem isGap_iff {gap : Text} : IsGap gap ↔ ∀ c ∈ gap, isBlank c := by
  simp only [IsGap, isBlank_iff]

theorem IsGap.append {a b : Text} (ha : IsGap a) (hb : IsGap b) : IsGap (a ++ b) :=
  List.forall_mem_append.2 ⟨ha, hb⟩

theorem IsGap.cons {c : Char} {gap : Text} (hc : isBlank c) (hgap : IsGap gap) : IsGap (c :: gap) :=
  List.forall_mem_cons.2 ⟨isBlank_iff.1 hc, hgap⟩

theorem words_of_separated {ws : List Text} {t : Text} (h : Separated ws t) : words t = ws := by
  induction h with
  | none => rfl
  | last hw => exact words_of_no_blank hw.1 hw.2
  | before hw hgap hne _ ih =>
    obtain ⟨c, gap, rfl⟩ := List.exists_cons_of_ne_nil hne
    obtain ⟨hc, hgap⟩ := List.forall_mem_cons.1 (isGap_iff.1 hgap)
    rw [List.append_assoc, List.cons_append, words_append_cons hc, words_blanks_append hgap,
      words_of_no_blank hw.1 hw.2, ih]
    rfl

theorem words_of_spacedOut {ws : List Text} {t : Text} (h : SpacedOut ws t) : words t = ws := by
  obtain ⟨lead, body, trail, rfl, hlead, hbody, htrail⟩ := h
  rw [words_append_blanks _ (isGap_iff.1 htrail), words_blanks_append (isGap_iff.1 hlead),
    words_of_separated hbody]

theorem spacedOut_of_isGap {gap : Text} (h : IsGap gap) : SpacedOut [] gap := by
  refine ⟨gap, [], [], ?_, h, .none, by simp [IsGap]⟩
  rw [List.append_nil, List.append_nil]

theorem spacedOut_of_isWord {w : Text} (h : IsWord w) : SpacedOut [w] w := by
  refine ⟨[], w, [], ?_, by simp [IsGap], .last h, by simp [IsGap]⟩
  rw [List.nil_append, List.append_nil]

namespace SpacedOut

variable {ws : List Text} {t w : Text} {c : Char}

theorem cons_blank (hc : isBlank c) (h : SpacedOut ws t) : SpacedOut ws (c :: t) := by
  obtain ⟨lead, body, trail, rfl, hlead, hbody, htrail⟩ := h
  exact ⟨c :: lead, body, trail, rfl, hlead.cons hc, hbody, htrail⟩

theorem append_cons (hw : IsWord w) (hc : isBlank c) (h : SpacedOut ws t) :
    SpacedOut (w :: ws) (w ++ c :: t) := by
  obtain ⟨lead, body, trail, rfl, hlead, hbody, htrail⟩ := h
  cases ws with
  | nil =>
    -- Without another word all of the gap is at the end.
    cases hbody
    refine ⟨[], w, c :: (lead ++ trail), ?_, by simp [IsGap], .last hw, ?_⟩
    · rw [List.nil_append, List.append_nil]
    · exact (hlead.append htrail).cons hc
  | cons v ws =>
    have hseparated := Separated.before hw (hlead.cons hc) (List.cons_ne_nil c lead) hbody
    refine ⟨[], w ++ c :: lead ++ body, trail, ?_, by simp [IsGap], hseparated, htrail⟩
    simp only [List.nil_append, List.append_assoc, List.cons_append]

end SpacedOut

theorem spacedOut_words (t : Text) : SpacedOut (words t) t := by
  induction t using parted_induction isBlank with
  | whole w hw =>
    by_cases hne : w = []
    · subst hne
      exact spacedOut_of_isGap (by simp [IsGap])
    · rw [words_of_no_blank hne hw]
      exact spacedOut_of_isWord ⟨hne, hw⟩
  | parted w c rest hw hc ih =>
    rw [words_append_cons hc]
    by_cases hne : w = []
    · subst hne
      exact ih.cons_blank hc
    · rw [words_of_no_blank hne hw]
      exact ih.append_cons ⟨hne, hw⟩ hc

/-- Cutting a text into words is the inverse of spacing words out: the words of a text are the only
ones that it can be made of, and they are found again whatever spaces and tabs stand between them
and at the ends. So each space and each tab parts the words in front of it from those behind it. -/
theorem words_eq_iff_spacedOut :
    (∀ (t : Text) (ws : List Text), words t = ws ↔ SpacedOut ws t) ∧
      ∀ (a b : Text) (c : Char), c = ' ' ∨ c = '\t' → words (a ++ c :: b) = words a ++ words b := by
  refine ⟨fun t ws => ⟨?_, words_of_spacedOut⟩, fun a b c hc => ?_⟩
  · rintro rfl
    exact spacedOut_words t
  · exact words_append_cons (isBlank_iff.2 hc) a b

/-- A no-break space belongs to a word, like a quote. -/
theorem words_eq_iff_spacedOut_mixed :
    let t := "\t ls\t \t'-l\u00A0x' ".toList
    let ws := ["ls".toList, "'-l\u00A0x'".toList]
    SpacedOut ws t ∧ words t = ws ∧ ('\t' = ' ' ∨ '\t' = '\t') ∧
      words ("ls ".toList ++ '\t' :: "é x".toList) = ["ls".toList, "é".toList, "x".toList] := by
  intro t ws
  obtain ⟨hiff, hcut⟩ := words_eq_iff_spacedOut
  have hfirst : IsWord "ls".toList := by decide
  have hlast : IsWord "'-l\u00A0x'".toList := by decide
  have hgap : IsGap "\t \t".toList := by simp [IsGap]
  have hbody : Separated ws ("ls".toList ++ "\t \t".toList ++ "'-l\u00A0x'".toList) :=
    .before hfirst hgap (by decide) (.last hlast)
  have hspaced : SpacedOut ws t :=
    ⟨"\t ".toList, _, [' '], rfl, by simp [IsGap], hbody, by simp [IsGap]⟩
  refine ⟨hspaced, (hiff t ws).2 hspaced, .inr rfl, ?_⟩
  rw [hcut _ _ '\t' (.inr rfl)]
  decide

end Text
end LineShell
