import LineShell.Proofs.Expansion
import LineShell.Proofs.Runs
import LineShell.Text.Space
import Mathlib.Data.List.Forall2

/-!
A line is run as it was read, and recorded without the white space around it. The recorded line has
the same operators, and asks for the same commands as far as that white space was blanks.
-/
namespace LineShell

namespace Text

/-- The words of a text are what is left of it without its blanks. -/
theorem flatten_words (t : Text) : t.words.flatten = t.filter (!isBlank ·) := by
  rw [words, List.flatten_filter_not_isEmpty, flatten_splitWhere]

theorem exists_trimEnd_append (t : Text) :
    ∃ trail, t = trimEnd t ++ trail ∧ ∀ c ∈ trail, isSpace c := by
  refine ⟨(t.reverse.takeWhile isSpace).reverse, ?_, fun c hc => ?_⟩
  · rw [trimEnd, ← List.reverse_append, List.takeWhile_append_dropWhile, List.reverse_reverse]
  · exact List.mem_takeWhile_imp (List.mem_reverse.1 hc)

theorem exists_append_trim_append (t : Text) :
    ∃ lead trail, t = lead ++ trim t ++ trail ∧ ∀ c ∈ lead ++ trail, isSpace c := by
  obtain ⟨trail, ht, htrail⟩ := exists_trimEnd_append (t.dropWhile isSpace)
  refine ⟨t.takeWhile isSpace, trail, ?_, fun c hc => ?_⟩
  · rw [trim, List.append_assoc, ← ht, List.takeWhile_append_dropWhile]
  · rcases List.mem_append.1 hc with hc | hc
    · exact List.mem_takeWhile_imp hc
    · exact htrail c hc

def TrimsBlanks (t : Text) : Prop :=
  ∃ lead trail, t = lead ++ trim t ++ trail ∧ ∀ c ∈ lead ++ trail, isBlank c

theorem isSpace_of_isBlank {c : Char} (h : isBlank c) : isSpace c := by
  rcases isBlank_iff.1 h with rfl | rfl <;> decide

theorem trim_of_blanks {t : Text} (h : ∀ c ∈ t, isBlank c) : trim t = [] := by
  rw [trim, List.dropWhile_eq_nil_iff.2 fun c hc => isSpace_of_isBlank (h c hc)]
  rfl

end Text

namespace Segment

/-- No operator is made of this character. -/
def IsText (c : Char) : Prop := c ≠ ';' ∧ c ≠ '&' ∧ c ≠ '|'

theorem isText_of_isSpace {c : Char} (h : Text.isSpace c) : IsText c := by
  refine ⟨?_, ?_, ?_⟩ <;>
  · rintro rfl
    exact absurd h (by decide)

theorem plain_of_isText {t : Text} (h : ∀ c ∈ t, IsText c) : Plain t := by
  induction t with
  | nil => exact plain_nil
  | cons c t ih =>
    obtain ⟨⟨hs, ha, ho⟩, ht⟩ := List.forall_mem_cons.1 h
    exact plain_cons.2 ⟨ih ht, hs, fun _ => ⟨ha, ho⟩⟩

theorem scan_append_of_isText (gate : Gate) (read : Text) {lead : Text} (h : ∀ c ∈ lead, IsText c)
    (t : Text) : scan gate read (lead ++ t) = scan gate (lead.reverse ++ read) t := by
  induction lead generalizing read with
  | nil => rfl
  | cons c lead ih =>
    obtain ⟨⟨hs, ha, ho⟩, hlead⟩ := List.forall_mem_cons.1 h
    rw [List.cons_append, scan_cons hs fun _ => ⟨ha, ho⟩, ih _ hlead]
    simp

/-- The same gate in front of the same text, with characters that satisfy `p` around it. -/
def Padded (p : Char → Prop) (a b : Segment) : Prop :=
  a.gate = b.gate ∧ ∃ lead trail, a.text = lead ++ b.text ++ trail ∧ ∀ c ∈ lead ++ trail, p c

section Padding

variable {p : Char → Prop} (hp : ∀ c, p c → IsText c) {lead trail : Text}
  (hlead : ∀ c ∈ lead, p c) (htrail : ∀ c ∈ trail, p c)
include hp hlead htrail

/-- What stands in front of a line goes to its first segment, and what stands behind to its last. -/
theorem padded_scan (gate : Gate) (read t : Text) :
    List.Forall₂ (Padded p) (scan gate (read ++ lead.reverse) (t ++ trail)) (scan gate read t) := by
  fun_induction scan gate read t generalizing lead with
  | case1 gate read rest ih | case2 gate read rest ih | case3 gate read rest ih =>
    have hfirst : Padded p ⟨gate, (read ++ lead.reverse).reverse⟩ ⟨gate, read.reverse⟩ :=
      ⟨rfl, lead, [], by simp, by simpa using hlead⟩
    have hnone : ∀ c ∈ ([] : Text), p c := by simp
    exact .cons hfirst (ih hnone)
  | case4 gate read c rest ho ha hs ih =>
    have hc : Alone c (rest ++ trail) := by
      cases rest with
      | cons d rest => simpa [Alone] using alone_of_not_operator ho ha
      | nil =>
        -- Only here is the character next to what stands behind the line.
        intro h
        obtain ⟨-, hand, hor⟩ := hp c (htrail c (List.mem_of_mem_head? h))
        exact ⟨hand, hor⟩
    rw [List.cons_append, scan_cons hs hc]
    exact ih hlead
  | case5 gate read =>
    have hplain := plain_of_isText fun c hc => hp c (htrail c hc)
    rw [List.nil_append, scan_plain hplain]
    exact .cons ⟨rfl, lead, trail, by simp, List.forall_mem_append.2 ⟨hlead, htrail⟩⟩ .nil

/-- White space around a line pads its first and its last segment. -/
theorem padded_ofLine (t : Text) :
    List.Forall₂ (Padded p) (ofLine (lead ++ t ++ trail)) (ofLine t) := by
  have h := padded_scan hp hlead htrail .first [] t
  rwa [List.nil_append, ← List.append_nil lead.reverse,
    ← scan_append_of_isText .first [] (fun c hc => hp c (hlead c hc)), ← List.append_assoc] at h

end Padding

/-- What a line asks for: the words of each segment, with its gate. -/
def commands (line : Text) : List (Gate × List Text) :=
  (ofLine line).map fun s => (s.gate, s.text.words)

theorem map_eq_of_padded {α : Type} {p : Char → Prop} {f : Segment → α}
    (hf : ∀ a b, Padded p a b → f a = f b) {xs ys : List Segment}
    (h : List.Forall₂ (Padded p) xs ys) : xs.map f = ys.map f := by
  induction h with
  | nil => rfl
  | cons hfirst _ ih => rw [List.map_cons, List.map_cons, hf _ _ hfirst, ih]

theorem words_eq_of_padded {a b : Segment} (h : Padded (isBlank ·) a b) :
    (a.gate, a.text.words) = (b.gate, b.text.words) := by
  obtain ⟨hgate, lead, trail, htext, hblank⟩ := h
  obtain ⟨hlead, htrail⟩ := List.forall_mem_append.1 hblank
  rw [hgate, htext, Text.words_append_blanks _ htrail, Text.words_blanks_append hlead]

/-- What a line asks for says which characters it has beside its blanks. -/
theorem filter_eq_of_commands (line : Text) :
    line.filter (!isBlank ·) =
      (commands line).flatMap fun (gate, words) => gate.spelling ++ words.flatten := by
  have hspelling (gate : Gate) : gate.spelling.filter (!isBlank ·) = gate.spelling := by
    cases gate <;> rfl
  conv => lhs; rw [← render_ofLine line]
  simp [render, commands, List.filter_flatMap, List.flatMap_map, hspelling, Text.flatten_words]

/-- Trimming a line leaves it with the commands that it asks for exactly if it trims off nothing but
blanks. -/
theorem commands_trim_eq_iff {line : Text} :
    commands line.trim = commands line ↔ line.TrimsBlanks := by
  constructor
  · intro h
    obtain ⟨lead, trail, hline, -⟩ := line.exists_append_trim_append
    refine ⟨lead, trail, hline, ?_⟩
    have hfilter : line.trim.filter (!isBlank ·) = line.filter (!isBlank ·) := by
      rw [filter_eq_of_commands, filter_eq_of_commands line, h]
    -- The blanks apart, both lines have the same length.
    have hlength := congrArg List.length hfilter
    rw [congrArg (List.filter (!isBlank ·)) hline, List.filter_append, List.filter_append,
      List.length_append, List.length_append] at hlength
    have hnone : (lead ++ trail).filter (!isBlank ·) = [] := by
      rw [← List.length_eq_zero_iff, List.filter_append, List.length_append]
      omega
    intro c hc
    simpa using List.filter_eq_nil_iff.1 hnone c hc
  · rintro ⟨lead, trail, hline, hblank⟩
    obtain ⟨hlead, htrail⟩ := List.forall_mem_append.1 hblank
    have hpadded := padded_ofLine (fun c hc => isText_of_isSpace (Text.isSpace_of_isBlank hc))
      hlead htrail line.trim
    rw [← hline] at hpadded
    exact (map_eq_of_padded (fun _ _ => words_eq_of_padded) hpadded).symm

end Segment

/-- The words of a segment are all that its command depends on. -/
theorem Session.argv_eq_of_words (s : Session) {a b : Text} (h : a.words = b.words) :
    s.argv a = s.argv b := by
  rw [argv, argv, words_expandVars, words_expandVars s (s.aliases.expandAlias b), words_expandAlias,
    words_expandAlias, h]

namespace Shell

theorem runSegments_eq_of_words (factories : List Factory) {xs ys : List Segment}
    (h : (xs.map fun s => (s.gate, s.text.words)) = ys.map fun s => (s.gate, s.text.words))
    (sh : Shell) : runSegments factories xs sh = runSegments factories ys sh := by
  induction xs generalizing ys sh with
  | nil =>
    obtain rfl : ys = [] := by simpa using h.symm
    rfl
  | cons x xs ih =>
    cases ys with
    | nil => simp at h
    | cons y ys =>
      obtain ⟨⟨hgate, hwords⟩, hrest⟩ := by simpa using h
      have hsegment : sh.runSegment factories x.text = sh.runSegment factories y.text := by
        rw [runSegment, runSegment, sh.session.argv_eq_of_words hwords]
      rw [runSegments, runSegments, hgate, hsegment, ih hrest, ih hrest]

theorem runLine_eq_of_commands (factories : List Factory) {a b : Text}
    (h : Segment.commands a = Segment.commands b) (sh : Shell) :
    sh.runLine factories a = sh.runLine factories b := runSegments_eq_of_words factories h sh

theorem accept_of_blanks (factories : List Factory) {line : Text} (h : ∀ c ∈ line, isBlank c)
    (sh : Shell) :
    sh.accept factories line = { sh with session.lineCount := sh.session.lineCount + 1 } := by
  have htrim := Text.trim_of_blanks h
  have hcommands : Segment.commands line = Segment.commands [] := by
    have htrims : line.TrimsBlanks := ⟨line, [], by simp [htrim], by simpa using h⟩
    rw [← Segment.commands_trim_eq_iff.2 htrims, htrim]
  rw [accept, runLine_eq_of_commands factories hcommands, runLine_nil, enter, htrim]

/-- The line that is recorded has the operators of the line that is run, and asks for the same
commands exactly if nothing but blanks was trimmed off; then running the one is running the other.
A line of blanks is counted, and nothing else is done. -/
theorem runLine_trim (line : Text) :
    ((Segment.ofLine line.trim).map (·.gate) = (Segment.ofLine line).map (·.gate)) ∧
      (Segment.commands line.trim = Segment.commands line ↔ line.TrimsBlanks) ∧
      ∀ (factories : List Factory) (sh : Shell),
        (line.TrimsBlanks → sh.runLine factories line.trim = sh.runLine factories line) ∧
          ((∀ c ∈ line, isBlank c) →
            sh.accept factories line =
              { sh with session.lineCount := sh.session.lineCount + 1 }) := by
  refine ⟨?_, Segment.commands_trim_eq_iff, fun factories sh =>
    ⟨fun htrims => ?_, fun hblank => ?_⟩⟩
  · obtain ⟨lead, trail, hline, hspace⟩ := line.exists_append_trim_append
    obtain ⟨hlead, htrail⟩ := List.forall_mem_append.1 hspace
    have hpadded :=
      Segment.padded_ofLine (fun _ => Segment.isText_of_isSpace) hlead htrail line.trim
    rw [← hline] at hpadded
    exact (Segment.map_eq_of_padded (fun _ _ h => h.1) hpadded).symm
  · exact runLine_eq_of_commands factories (Segment.commands_trim_eq_iff.2 htrims) sh
  · exact accept_of_blanks factories hblank sh

/-- A carriage return alone is nothing to record, and a word that no command is found for. -/
theorem runLine_trim_return :
    let reader : Reader := ⟨[0x0D, 0x0A], false⟩
    let last := ({} : Shell).repl (defaultFactories .echo) reader
    reader.lines = [['\r']] ∧ Text.trim ['\r'] = [] ∧
      Segment.commands [] ≠ Segment.commands ['\r'] ∧
      last.session.history.numbered = [] ∧ last.session.lastStatus = .notFound := by
  decide +kernel

end Shell
end LineShell
