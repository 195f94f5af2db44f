import LineShell.Proofs.Words

/-!
What a comment takes off a line: the first word that begins with a hash, and all words behind it.
-/
namespace LineShell.Text

theorem isPrefix_uncommented (wordStart : Bool) (t : Text) : uncommented wordStart t <+: t := by
  fun_induction uncommented wordStart t with
  | case1 => exact List.prefix_rfl
  | case2 => exact List.nil_prefix
  | case3 _ c _ _ ih => exact (List.prefix_cons_inj c).2 ih

/-- A comment takes no character into a line. -/
theorem not_mem_stripComment {c : Char} {t : Text} (h : c ∉ t) : c ∉ stripComment t :=
  fun hm => h ((isPrefix_uncommented true t).mem hm)

/-- A comment that was taken off leaves none. -/
theorem uncommented_of_initial {wordStart : Bool} {t front : Text}
    (h : front <+: uncommented wordStart t) : uncommented wordStart front = front := by
  fun_induction uncommented wordStart t generalizing front with
  | case1 => rw [List.prefix_nil.1 h, uncommented]
  | case2 => rw [List.prefix_nil.1 h, uncommented]
  | case3 wordStart c t hc ih =>
    cases front with
    | nil => rw [uncommented]
    | cons c front =>
      obtain ⟨rfl, hfront⟩ := List.cons_prefix_cons.1 h
      rw [uncommented, if_neg hc, ih hfront]

/-- Inside a word there is no comment. -/
theorem uncommented_append {w : Text} (h : ∀ c ∈ w, isBlank c = false) (t : Text) :
    uncommented false (w ++ t) = w ++ uncommented false t := by
  induction w with
  | nil => rfl
  | cons c w ih =>
    obtain ⟨hc, hw⟩ := List.forall_mem_cons.1 h
    rw [List.cons_append, uncommented, if_neg (by simp), hc, ih hw, List.cons_append]

/-- A blank is no comment, and behind it one can begin. -/
theorem uncommented_cons_blank (wordStart : Bool) {c : Char} (hc : isBlank c) (t : Text) :
    uncommented wordStart (c :: t) = c :: stripComment t := by
  have hne : c ≠ '#' := by
    rintro rfl
    exact absurd hc (by decide)
  rw [uncommented, if_neg (by simp [hne]), hc, stripComment]

theorem stripComment_cons_hash (t : Text) : stripComment ('#' :: t) = [] := by
  rw [stripComment, uncommented, if_pos ⟨rfl, rfl⟩]

section Word

variable {w : Text} (hw : ∀ c ∈ w, isBlank c = false)
include hw

theorem eq_of_mem_words {v : Text} (hv : v ∈ words w) : v = w := by
  rw [words, splitWhere_of_forall hw] at hv
  exact List.mem_singleton.1 (List.mem_filter.1 hv).1

/-- A word that does not begin with a hash stays. -/
theorem stripComment_append (hhead : w.head? ≠ some '#') {t : Text}
    (ht : ∀ c ∈ t.head?, isBlank c) : stripComment (w ++ t) = w ++ stripComment t := by
  have hbehind : uncommented false t = stripComment t := by
    cases t with
    | nil => rfl
    | cons c t =>
      have hc : isBlank c := ht c rfl
      rw [stripComment, uncommented_cons_blank false hc, uncommented_cons_blank true hc]
  cases w with
  | nil => rfl
  | cons d w =>
    obtain ⟨hd, hw⟩ := List.forall_mem_cons.1 hw
    have hne : d ≠ '#' := fun he => hhead (he ▸ rfl)
    rw [stripComment, List.cons_append, uncommented, if_neg (by simp [hne]), hd,
      uncommented_append hw, hbehind, List.cons_append]

theorem stripComment_word (hhead : w.head? ≠ some '#') : stripComment w = w := by
  have h := stripComment_append hw hhead (t := []) (by simp)
  rwa [List.append_nil, show stripComment [] = [] from rfl, List.append_nil] at h

theorem stripComment_append_cons (hhead : w.head? ≠ some '#') {c : Char} (hc : isBlank c)
    (t : Text) : stripComment (w ++ c :: t) = w ++ c :: stripComment t := by
  have ht : ∀ d ∈ (c :: t).head?, isBlank d := by simpa using hc
  rw [stripComment_append hw hhead ht, stripComment, uncommented_cons_blank true hc]

end Word

/-- The words that are left are those in front of the first one that begins with a hash. -/
theorem words_stripComment (line : Text) :
    words (stripComment line) = (words line).takeWhile (·.head? != some '#') := by
  induction line using parted_induction isBlank with
  | whole w hw =>
    by_cases hhead : w.head? = some '#'
    · obtain ⟨t, rfl⟩ := List.head?_eq_some_iff.1 hhead
      rw [stripComment_cons_hash, words_of_no_blank (List.cons_ne_nil _ _) hw]
      rfl
    · rw [stripComment_word hw hhead]
      refine (List.takeWhile_eq_self_iff.2 fun v hv => ?_).symm
      rw [eq_of_mem_words hw hv]
      simpa using hhead
  | parted w c rest hw hc ih =>
    rw [words_append_cons hc]
    by_cases hhead : w.head? = some '#'
    · obtain ⟨t, rfl⟩ := List.head?_eq_some_iff.1 hhead
      rw [List.cons_append, stripComment_cons_hash, words_of_no_blank (List.cons_ne_nil _ _) hw]
      rfl
    · have hkept : ∀ v ∈ words w, (v.head? != some '#') = true := by
        intro v hv
        rw [eq_of_mem_words hw hv]
        simpa using hhead
      rw [stripComment_append_cons hw hhead hc, words_append_cons hc, ih,
        List.takeWhile_append_of_pos hkept]

/-- Where no word begins with a hash, there is no comment. -/
theorem stripComment_of_forall_words {line : Text} (h : ∀ w ∈ words line, w.head? ≠ some '#') :
    stripComment line = line := by
  have hword {w : Text} (hw : ∀ c ∈ w, isBlank c = false)
      (hwords : ∀ v ∈ words w, v.head? ≠ some '#') : w.head? ≠ some '#' := by
    cases w with
    | nil => simp
    | cons d w =>
      refine hwords _ ?_
      rw [words_of_no_blank (List.cons_ne_nil d w) hw]
      exact List.mem_singleton_self _
  induction line using parted_induction isBlank with
  | whole w hw => exact stripComment_word hw (hword hw h)
  | parted w c rest hw hc ih =>
    rw [words_append_cons hc, List.forall_mem_append] at h
    rw [stripComment_append_cons hw (hword hw h.1) hc, ih h.2]

/-- Taking off a comment takes off the words from the first one on that begins with a hash, and
nothing else in front of it: what is left is a front of the line, and has no comment any more. -/
theorem stripComment_exact (line : Text) :
    stripComment line <+: line ∧
      (stripComment line = line ↔ ∀ w ∈ words line, w.head? ≠ some '#') ∧
      stripComment (stripComment line) = stripComment line ∧
      IsLongestFront (fun w : Text => w.head? ≠ some '#') (words (stripComment line))
        (words line) := by
  have hlongest : IsLongestFront (fun w : Text => w.head? ≠ some '#')
      (words (stripComment line)) (words line) := by
    rw [words_stripComment]
    simpa using isLongestFront_takeWhile (fun w : Text => w.head? != some '#') (words line)
  refine ⟨isPrefix_uncommented true line, ⟨fun h => ?_, stripComment_of_forall_words⟩,
    uncommented_of_initial List.prefix_rfl, hlongest⟩
  have hholds := hlongest.holds
  rwa [h] at hholds

end LineShell.Text
