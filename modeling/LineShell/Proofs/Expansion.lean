import LineShell.Expansion
import LineShell.Proofs.Offsets
import LineShell.Proofs.Words

/-!
Expansion works word by word: the first word, which is found by its byte offset, stands for the
words of its alias, and the references in a word are replaced as if the word stood alone.
-/
namespace LineShell

/-! ### The first word -/

namespace Text

/-- The word is the first one of the text and begins at byte `start`. In front of it are blanks, and
the other words are those of the text behind it. -/
structure IsFirstWord (t word : Text) (start : Nat) (front behind : Text) : Prop where
  lead : IsGap front
  starts : CutsAt t start front (word ++ behind)
  ends : CutsAt t (start + byteLength word) (front ++ word) behind
  words : words t = word :: words behind

theorem isFirstWord_of_firstWord? {t word : Text} {start : Nat}
    (h : t.firstWord? = some (start, word)) :
    IsFirstWord t word start (t.takeWhile isBlank) (behindFirst t) := by
  obtain ⟨-, -, hstart, ht⟩ := eq_of_firstWord? h
  refine ⟨isGap_iff.2 fun c hc => List.mem_takeWhile_imp hc, ?_, ?_, words_of_firstWord? h⟩
  · exact cutsAt_iff.2 ⟨ht, hstart⟩
  · refine cutsAt_iff.2 ⟨?_, ?_⟩
    · rw [List.append_assoc, ht]
    · rw [byteLength_append, hstart]

theorem expandAlias_of_firstWord? {t word : Text} {start : Nat}
    (h : t.firstWord? = some (start, word)) (aliases : Bindings) :
    aliases.expandAlias t =
      match aliases.get? word with
      | none => t
      | some value => t.takeWhile isBlank ++ value ++ behindFirst t := by
  rw [Bindings.expandAlias, h]
  rfl

/-- There is a first word exactly where there are words, and then it is the first of them. The text
can be cut in front of it and behind it, and what is behind it has the other words. So it is this
word alone that is looked up as an alias, and its place that the value takes. -/
theorem firstWord?_exact (t : Text) :
    (t.firstWord? = none ↔ words t = []) ∧
      (words t ≠ [] → ∃ start word front behind, t.firstWord? = some (start, word) ∧
        IsFirstWord t word start front behind ∧
        ∀ aliases : Bindings, aliases.expandAlias t =
          match aliases.get? word with
          | none => t
          | some value => front ++ value ++ behind) ∧
      (words t = [] → ∀ aliases : Bindings, aliases.expandAlias t = t) := by
  refine ⟨firstWord?_eq_none_iff, fun hwords => ?_, fun hnone aliases => ?_⟩
  · obtain ⟨⟨start, word⟩, hfound⟩ :=
      Option.ne_none_iff_exists'.1 (mt firstWord?_eq_none_iff.1 hwords)
    exact ⟨start, word, t.takeWhile isBlank, behindFirst t, hfound,
      isFirstWord_of_firstWord? hfound, expandAlias_of_firstWord? hfound⟩
  · rw [Bindings.expandAlias, firstWord?_eq_none_iff.2 hnone]

/-- A word of characters that take two and three bytes. -/
theorem firstWord?_exact_wide :
    let t : Text := " \té日\t x".toList
    let aliases : Bindings := .ofPairs [("é日".toList, "ls -l".toList), (['x'], ['y'])]
    words t ≠ [] ∧
      (∃ front behind, IsFirstWord t "é日".toList 2 front behind ∧
        aliases.expandAlias t = front ++ "ls -l".toList ++ behind) ∧
      words " \t".toList = [] ∧ aliases.expandAlias " \t".toList = " \t".toList := by
  intro t aliases
  have hwords : words t ≠ [] := by decide
  have hnone : words " \t".toList = [] := by decide
  obtain ⟨-, hsome, -⟩ := firstWord?_exact t
  obtain ⟨-, -, hblank⟩ := firstWord?_exact " \t".toList
  obtain ⟨start, word, front, behind, hfound, hfirst, halias⟩ := hsome hwords
  have hfirstWord : t.firstWord? = some (2, "é日".toList) := by decide
  obtain ⟨rfl, rfl⟩ := Prod.mk.inj (Option.some.inj (hfound.symm.trans hfirstWord))
  have hget : aliases.get? "é日".toList = some "ls -l".toList := by decide
  refine ⟨hwords, ⟨front, behind, hfirst, ?_⟩, hnone, hblank hnone aliases⟩
  rw [halias, hget]

end Text

/-! ### Word by word -/

/-- The words that a word is replaced by at the beginning of a segment. -/
def Bindings.aliasWords (aliases : Bindings) (word : Text) : List Text :=
  match aliases.get? word with
  | some value => value.words
  | none => [word]

namespace Session

/-- The words of the command that a segment stands for, from the words of the segment. -/
def argvOfWords (s : Session) : List Text → List Text
  | [] => []
  | word :: words => (s.aliases.aliasWords word ++ words).flatMap fun w => (s.expandVars w).words

theorem expandVars_of_not_mem (s : Session) {t : Text} (h : '$' ∉ t) : s.expandVars t = t := by
  have hd : t.dropWhile (· != '$') = [] := by
    refine List.dropWhile_eq_nil_iff.2 fun c hc => ?_
    simpa using fun he : c = '$' => h (he ▸ hc)
  rw [expandVars]
  split
  · rfl
  next he => simp [hd] at he

theorem expandVars_append_dollar (s : Session) {a : Text} (h : '$' ∉ a) (rest : Text) :
    s.expandVars (a ++ '$' :: rest) =
      a ++ (s.reference rest).1 ++ s.expandVars (s.reference rest).2 := by
  have ha : ∀ c ∈ a, (c != '$') = true := fun c hc => by simpa using fun he : c = '$' => h (he ▸ hc)
  have hd : (a ++ '$' :: rest).dropWhile (· != '$') = '$' :: rest := by
    rw [List.dropWhile_append_of_pos ha]
    simp
  have ht : (a ++ '$' :: rest).takeWhile (· != '$') = a := by
    rw [List.takeWhile_append_of_pos ha]
    simp
  rw [expandVars]
  split
  next he => simp [hd] at he
  next he =>
    rw [hd] at he
    obtain ⟨-, rfl⟩ := List.cons.inj he
    rw [ht]

theorem reference_name (s : Session) {t : Text} (hq : t.head? ≠ some '?')
    (hd : t.head? ≠ some '$') : s.reference t = if t.takeWhile isNameChar = [] then (['$'], t)
      else ((s.env.get? (t.takeWhile isNameChar)).getD [], t.dropWhile isNameChar) := by
  rw [reference.eq_def]
  split
  · simp at hq
  · simp at hd
  · split
    next h => rw [if_pos h]
    next h => rw [if_neg h]

theorem reference_suffix (s : Session) (t : Text) : (s.reference t).2 <:+ t := by
  unfold reference
  split
  · exact List.suffix_cons _ _
  · exact List.suffix_cons _ _
  · split
    · exact List.suffix_rfl
    · exact List.dropWhile_suffix _

/-- A reference ends in front of a character that belongs to none. One that is no name may belong to
the `$` in front of it, but not where there is something between them. -/
theorem reference_append_cons (s : Session) {c : Char} (hn : isNameChar c = false) {a : Text}
    (hc : a = [] → c ≠ '?' ∧ c ≠ '$') (b : Text) :
    s.reference (a ++ c :: b) = ((s.reference a).1, (s.reference a).2 ++ c :: b) := by
  by_cases haq : a.head? = some '?'
  · obtain ⟨a, rfl⟩ := List.head?_eq_some_iff.1 haq
    rfl
  by_cases had : a.head? = some '$'
  · obtain ⟨a, rfl⟩ := List.head?_eq_some_iff.1 had
    rfl
  have hhead : ∀ d, d = '?' ∨ d = '$' → a.head? ≠ some d → (a ++ c :: b).head? ≠ some d := by
    intro d hd had
    cases a with
    | nil =>
      obtain ⟨hcq, hcd⟩ := hc rfl
      rcases hd with rfl | rfl
      · simpa using hcq
      · simpa using hcd
    | cons e a => simpa using had
  rw [reference_name s (hhead _ (.inl rfl) haq) (hhead _ (.inr rfl) had),
    reference_name s haq had, takeWhile_append_cons hn, dropWhile_append_cons hn]
  split <;> rfl

/-- Text in front of every `$` stays as it is. -/
theorem expandVars_append (s : Session) {a : Text} (h : '$' ∉ a) (b : Text) :
    s.expandVars (a ++ b) = a ++ s.expandVars b := by
  cases hc : Text.cut? '$' b with
  | none =>
    have hb := Text.cut?_eq_none_iff.1 hc
    rw [expandVars_of_not_mem s hb, expandVars_of_not_mem s (by simp [h, hb])]
  | some parts =>
    obtain ⟨rfl, hx⟩ := Text.cut?_eq_some_iff.1 hc
    have hax : '$' ∉ a ++ parts.1 := by simp [h, hx]
    rw [expandVars_append_dollar s hx, ← List.append_assoc, expandVars_append_dollar s hax]
    simp

/-- No reference reaches across a character that belongs to none. -/
theorem expandVars_append_cons (s : Session) {c : Char} (hn : isNameChar c = false) {a : Text}
    (hc : a.getLast? = some '$' → c ≠ '?' ∧ c ≠ '$') (b : Text) :
    s.expandVars (a ++ c :: b) = s.expandVars a ++ s.expandVars (c :: b) := by
  induction hl : a.length using Nat.strongRecOn generalizing a with
  | ind n ih =>
    cases hcut : Text.cut? '$' a with
    | none =>
      have ha := Text.cut?_eq_none_iff.1 hcut
      rw [expandVars_of_not_mem s ha, expandVars_append s ha]
    | some parts =>
      obtain ⟨x, rest⟩ := parts
      obtain ⟨rfl, hx⟩ := Text.cut?_eq_some_iff.1 hcut
      have hlt : (s.reference rest).2.length < n := by
        have := s.reference_length rest
        rw [← hl, List.length_append, List.length_cons]
        omega
      have hempty : rest = [] → c ≠ '?' ∧ c ≠ '$' := by
        rintro rfl
        exact hc (by simp)
      -- What is left of the text ends as the text does.
      have hleft : (s.reference rest).2.getLast? = some '$' → c ≠ '?' ∧ c ≠ '$' := by
        intro hlast
        obtain ⟨front, hfront⟩ := s.reference_suffix rest
        refine hc ?_
        rw [← hfront]
        simp [List.getLast?_append, List.getLast?_cons, hlast]
      rw [List.append_assoc, List.cons_append, expandVars_append_dollar s hx,
        reference_append_cons s hn hempty, ih _ hlt hleft rfl, expandVars_append_dollar s hx]
      simp

theorem expandVars_append_blank (s : Session) (a : Text) (c : Char) (b : Text) (hc : isBlank c) :
    s.expandVars (a ++ c :: b) = s.expandVars a ++ c :: s.expandVars b := by
  have hne : isNameChar c = false ∧ c ≠ '?' ∧ c ≠ '$' := by
    rcases isBlank_iff.1 hc with rfl | rfl <;> decide
  obtain ⟨hn, hqd⟩ := hne
  have hcb : s.expandVars ([c] ++ b) = [c] ++ s.expandVars b :=
    expandVars_append s (by simpa using Ne.symm hqd.2) b
  rw [expandVars_append_cons s hn fun _ => hqd]
  exact congrArg (s.expandVars a ++ ·) hcb

theorem words_expandVars (s : Session) (t : Text) :
    (s.expandVars t).words = t.words.flatMap fun w => (s.expandVars w).words :=
  Text.words_of_parting (expandVars_of_not_mem s (by simp)) (expandVars_append_blank s) t

/-- The words of an alias do not grow together with those of the rest. -/
theorem words_expandAlias (s : Session) (t : Text) :
    (s.aliases.expandAlias t).words =
      match t.words with
      | [] => []
      | word :: words => s.aliases.aliasWords word ++ words := by
  cases hf : t.firstWord? with
  | none =>
    have hwords := Text.firstWord?_eq_none_iff.1 hf
    rw [Bindings.expandAlias, hf]
    simp [hwords]
  | some first =>
    obtain ⟨start, word⟩ := first
    have hw := Text.words_of_firstWord? hf
    rw [Text.expandAlias_of_firstWord? hf, hw]
    unfold Bindings.aliasWords
    cases ha : s.aliases.get? word with
    | none => simpa [ha] using hw
    | some value =>
      simp only [ha]
      rw [List.append_assoc, Text.words_blanks_append fun c hc => List.mem_takeWhile_imp hc]
      exact Text.words_append t.behindFirst_head

/-- The words of a command depend on the words of its segment alone, and each of these on none of
the others. -/
theorem argv_eq_argvOfWords (s : Session) (segment : Text) :
    s.argv segment = s.argvOfWords segment.words := by
  rw [argv, words_expandVars, words_expandAlias]
  cases segment.words with
  | nil => rfl
  | cons word words => rfl

/-- The `$` at the end of an alias does not refer to the word behind it. -/
example : ({ aliases := .ofPairs [(['p'], "echo $".toList)] } : Session).argv "p HOME".toList =
    ["echo".toList, ['$'], "HOME".toList] := by decide +kernel

end Session
end LineShell
