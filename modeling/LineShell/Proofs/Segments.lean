import LineShell.Segment
import LineShell.Text.Utf8.RoundTrip
import Mathlib.Data.List.Chain

/-!
Cutting a line into segments and writing segments as a line undo each other. What lines are cut into
are exactly the canonical lists of segments, and cutting the bytes of a line cuts no character.
-/
namespace LineShell.Segment
open Utf8 (encode)

/-- A text in which there is nothing to cut at. -/
def Plain (t : Text) : Prop := ';' ∉ t ∧ ¬ ['&', '&'] <:+: t ∧ ¬ ['|', '|'] <:+: t

/-- Where `b` is written behind `a`, no operator begins within the text of `a`. -/
def Apart (a b : Segment) : Prop :=
  (b.gate = .or → a.text.getLast? ≠ some '|') ∧ (b.gate = .and → a.text.getLast? ≠ some '&')

structure Canonical (segments : List Segment) : Prop where
  first : ∃ text rest, segments = ⟨.first, text⟩ :: rest ∧ ∀ s ∈ rest, s.gate ≠ .first
  plain : ∀ s ∈ segments, Plain s.text
  apart : segments.IsChain Apart

/-- The cut of a byte string, made without a look at its characters. -/
def scanBytes (gate : Gate) (read : Bytes) : Bytes → List (Gate × Bytes)
  | 0x7C :: 0x7C :: rest => (gate, read.reverse) :: scanBytes .or [] rest
  | 0x26 :: 0x26 :: rest => (gate, read.reverse) :: scanBytes .and [] rest
  | 0x3B :: rest => (gate, read.reverse) :: scanBytes .semicolon [] rest
  | b :: rest => scanBytes gate (b :: read) rest
  | [] => [(gate, read.reverse)]

def ofBytes (line : Bytes) : List (Gate × Bytes) := scanBytes .first [] line

/-- A character that does not begin `&&` or `||` with the text behind it. -/
def Alone (c : Char) (rest : Text) : Prop := rest.head? = some c → c ≠ '&' ∧ c ≠ '|'

theorem alone_of_not_operator {c : Char} {rest : Text}
    (ho : ∀ t, c = '|' → rest = '|' :: t → False) (ha : ∀ t, c = '&' → rest = '&' :: t → False) :
    Alone c rest := by
  intro h
  obtain ⟨t, rfl⟩ := List.head?_eq_some_iff.1 h
  exact ⟨fun h => ha t h (by rw [h]), fun h => ho t h (by rw [h])⟩

theorem plain_nil : Plain [] := by simp [Plain]

theorem double_infix_cons (x c : Char) (t : Text) :
    [x, x] <:+: c :: t ↔ (c = x ∧ t.head? = some x) ∨ [x, x] <:+: t := by
  rw [List.infix_cons_iff, List.cons_prefix_cons]
  cases t with
  | nil => simp
  | cons d t => simp [List.cons_prefix_cons, eq_comm]

theorem plain_cons {c : Char} {t : Text} : Plain (c :: t) ↔ Plain t ∧ c ≠ ';' ∧ Alone c t := by
  unfold Plain Alone
  rw [double_infix_cons, double_infix_cons, List.mem_cons]
  constructor
  · rintro ⟨hs, ha, ho⟩
    refine ⟨⟨fun h => hs (.inr h), fun h => ha (.inr h), fun h => ho (.inr h)⟩,
      fun h => hs (.inl h.symm), fun ht => ⟨?_, ?_⟩⟩
    · rintro rfl
      exact ha (.inl ⟨rfl, ht⟩)
    · rintro rfl
      exact ho (.inl ⟨rfl, ht⟩)
  · rintro ⟨⟨hs, ha, ho⟩, hc, ht⟩
    refine ⟨?_, ?_, ?_⟩
    · rintro (h | h)
      · exact hc h.symm
      · exact hs h
    · rintro (⟨rfl, h⟩ | h)
      · exact (ht h).1 rfl
      · exact ha h
    · rintro (⟨rfl, h⟩ | h)
      · exact (ht h).2 rfl
      · exact ho h

theorem plain_reverse {t : Text} : Plain t.reverse ↔ Plain t := by
  unfold Plain
  rw [List.mem_reverse, show ['&', '&'] = ['&', '&'].reverse from rfl, List.reverse_infix,
    show ['|', '|'] = ['|', '|'].reverse from rfl, List.reverse_infix]
  rfl

theorem scan_cons {gate : Gate} {read line : Text} {c : Char} (hs : c ≠ ';') (hc : Alone c line) :
    scan gate read (c :: line) = scan gate (c :: read) line := by
  rw [scan.eq_def]
  split
  next he =>
    obtain ⟨rfl, rfl⟩ := List.cons.inj he
    exact absurd rfl (hc rfl).2
  next he =>
    obtain ⟨rfl, rfl⟩ := List.cons.inj he
    exact absurd rfl (hc rfl).1
  next he => exact absurd (List.cons.inj he).1 hs
  next he =>
    obtain ⟨rfl, rfl⟩ := List.cons.inj he
    rfl
  next he => exact absurd he (by simp)

/-- The gate in front of a line is the gate of its first segment, and changes nothing else. -/
theorem scan_eq_cons (read line : Text) :
    ∃ text rest, ∀ gate, scan gate read line = ⟨gate, text⟩ :: rest := by
  fun_induction scan .first read line with
  | case1 | case2 | case3 | case5 => exact ⟨_, _, fun gate => by rw [scan]⟩
  | case4 gate read c rest ho ha hs ih =>
    obtain ⟨text, segments, h⟩ := ih
    exact ⟨text, segments, fun gate => by rw [scan_cons hs (alone_of_not_operator ho ha), h]⟩

theorem gate_of_mem_tail_scan (gate : Gate) (read line : Text) :
    ∀ s ∈ (scan gate read line).tail, s.gate ≠ .first := by
  have later {gate : Gate} {line : Text} (hg : gate ≠ .first)
      (ih : ∀ s ∈ (scan gate [] line).tail, s.gate ≠ .first) :
      ∀ s ∈ scan gate [] line, s.gate ≠ .first := by
    obtain ⟨text, rest, h⟩ := scan_eq_cons [] line
    rw [h] at ih ⊢
    exact List.forall_mem_cons.2 ⟨hg, ih⟩
  fun_induction scan gate read line with
  | case1 _ _ _ ih | case2 _ _ _ ih | case3 _ _ _ ih => exact later (by decide) ih
  | case4 _ _ _ _ _ _ _ ih => exact ih
  | case5 => simp

/-- While a segment is read, what is read of it is plain, and no operator lies across its end. -/
theorem plain_of_mem_scan {gate : Gate} {read line : Text} (hr : Plain read)
    (hl : ∀ c, read.head? = some c → Alone c line) : ∀ s ∈ scan gate read line, Plain s.text := by
  fun_induction scan gate read line with
  | case1 _ read _ ih | case2 _ read _ ih | case3 _ read _ ih =>
    exact List.forall_mem_cons.2 ⟨plain_reverse.2 hr, ih plain_nil (by simp)⟩
  | case4 gate read c rest ho ha hs ih =>
    have hc : Alone c rest := alone_of_not_operator ho ha
    refine ih (plain_cons.2 ⟨hr, hs, fun h => hl c h rfl⟩) fun d hd => ?_
    exact Option.some.inj hd ▸ hc
  | case5 => simpa using plain_reverse.2 hr

theorem apart_scan {gate : Gate} {read line : Text}
    (hl : ∀ c, read.head? = some c → Alone c line) : (scan gate read line).IsChain Apart := by
  have link {gate next : Gate} {read rest : Text} (h : Apart ⟨gate, read.reverse⟩ ⟨next, []⟩)
      (ih : (scan next [] rest).IsChain Apart) :
      (⟨gate, read.reverse⟩ :: scan next [] rest).IsChain Apart := by
    obtain ⟨text, more, he⟩ := scan_eq_cons [] rest
    rw [he] at ih ⊢
    exact .cons_cons h ih
  fun_induction scan gate read line with
  | case1 gate read rest ih =>
    refine link ⟨fun _ h => ?_, fun h => by simp at h⟩ (ih (by simp))
    exact (hl '|' (by simpa using h) rfl).2 rfl
  | case2 gate read rest ih =>
    refine link ⟨fun h => by simp at h, fun _ h => ?_⟩ (ih (by simp))
    exact (hl '&' (by simpa using h) rfl).1 rfl
  | case3 gate read rest ih =>
    exact link ⟨fun h => by simp at h, fun h => by simp at h⟩ (ih (by simp))
  | case4 gate read c rest ho ha hs ih =>
    have hc : Alone c rest := alone_of_not_operator ho ha
    exact ih fun d hd => Option.some.inj hd ▸ hc
  | case5 => exact .singleton _

theorem canonical_ofLine (line : Text) : Canonical (ofLine line) where
  first := by
    obtain ⟨text, rest, h⟩ := scan_eq_cons [] line
    refine ⟨text, rest, h .first, ?_⟩
    simpa [h] using gate_of_mem_tail_scan .first [] line
  plain := plain_of_mem_scan plain_nil (by simp)
  apart := apart_scan (by simp)

theorem scan_plain {gate : Gate} {read text : Text} (ht : Plain text) :
    scan gate read text = [⟨gate, read.reverse ++ text⟩] := by
  induction text generalizing read with
  | nil => simp [scan]
  | cons c text ih =>
    obtain ⟨ht, hs, hc⟩ := plain_cons.1 ht
    rw [scan_cons hs hc, ih ht]
    simp

/-- A semicolon parts what is scanned in front of it from what is scanned behind it. -/
theorem scan_append_semicolon (gate : Gate) (read a b : Text) :
    scan gate read (a ++ ';' :: b) = scan gate read a ++ scan .semicolon [] b := by
  fun_induction scan gate read a with
  | case1 _ _ _ ih | case2 _ _ _ ih | case3 _ _ _ ih => simp [scan, ih]
  | case4 gate read c rest ho ha hs ih =>
    have hc : Alone c (rest ++ ';' :: b) := by
      cases rest with
      | nil => simpa [Alone] using fun h => absurd h.symm hs
      | cons d rest => simpa [Alone] using alone_of_not_operator ho ha
    rw [List.cons_append, scan_cons hs hc, ih]
  | case5 => simp [scan]

/-- Whatever stands next to a semicolon, what is behind it is cut as a line of its own. -/
theorem ofLine_append_semicolon (a b : Text) :
    ofLine (a ++ ';' :: b) = ofLine a ++ (ofLine b).modifyHead ({ · with gate := .semicolon }) := by
  obtain ⟨text, rest, h⟩ := scan_eq_cons [] b
  rw [ofLine, scan_append_semicolon, ofLine, ofLine, h, h]
  rfl

/-- A plain text is read up to the operator behind it. -/
theorem scan_append_spelling {gate : Gate} {read text : Text} {s : Segment} (ht : Plain text)
    (ha : Apart ⟨gate, text⟩ s) (hg : s.gate ≠ .first) (rest : Text) :
    scan gate read (text ++ (s.gate.spelling ++ rest)) =
      ⟨gate, read.reverse ++ text⟩ :: scan s.gate [] rest := by
  induction text generalizing read with
  | nil => cases hb : s.gate <;> simp_all [Gate.spelling, scan]
  | cons c text ih =>
    obtain ⟨ht, hs, hc⟩ := plain_cons.1 ht
    have hlast : Apart ⟨gate, text⟩ s := by
      cases text with
      | nil => simp [Apart]
      | cons d text => simpa [Apart] using ha
    have halone : Alone c (text ++ (s.gate.spelling ++ rest)) := by
      cases text with
      | cons d text => simpa [Alone] using hc
      | nil =>
        -- Here the operator follows at once, and only `Apart` keeps `c` from being a part of it.
        intro h
        cases hb : s.gate with
        | first => exact absurd hb hg
        | and => exact absurd (by simpa [hb, Gate.spelling] using h.symm) (by simpa using ha.2 hb)
        | or => exact absurd (by simpa [hb, Gate.spelling] using h.symm) (by simpa using ha.1 hb)
        | semicolon => exact absurd (by simpa [hb, Gate.spelling] using h.symm) hs
    rw [List.cons_append, scan_cons hs halone, ih ht hlast]
    simp

theorem scan_render {gate : Gate} {text : Text} {rest : List Segment}
    (hg : ∀ s ∈ rest, s.gate ≠ .first) (hp : ∀ s ∈ ⟨gate, text⟩ :: rest, Plain s.text)
    (ha : (⟨gate, text⟩ :: rest).IsChain Apart) :
    scan gate [] (text ++ render rest) = ⟨gate, text⟩ :: rest := by
  induction rest generalizing gate text with
  | nil =>
    have ht : Plain text := hp ⟨gate, text⟩ (List.mem_singleton.2 rfl)
    simpa [render] using @scan_plain gate [] text ht
  | cons s rest ih =>
    obtain ⟨ht, hp⟩ := List.forall_mem_cons.1 hp
    obtain ⟨hs, hg⟩ := List.forall_mem_cons.1 hg
    obtain ⟨hts, ha⟩ := List.isChain_cons_cons.1 ha
    have hr : render (s :: rest) = s.gate.spelling ++ (s.text ++ render rest) := by simp [render]
    rw [hr, scan_append_spelling ht hts hs, ih hg hp ha]
    simp

theorem ofLine_render {segments : List Segment} (h : Canonical segments) :
    ofLine (render segments) = segments := by
  obtain ⟨text, rest, rfl, hg⟩ := h.first
  exact scan_render hg h.plain h.apart

theorem scanBytes_cons {gate : Gate} {read bytes : Bytes} {b : UInt8} (hs : b ≠ 0x3B)
    (hb : bytes.head? = some b → b ≠ 0x26 ∧ b ≠ 0x7C) :
    scanBytes gate read (b :: bytes) = scanBytes gate (b :: read) bytes := by
  rw [scanBytes.eq_def]
  split
  next he =>
    obtain ⟨rfl, rfl⟩ := List.cons.inj he
    exact absurd rfl (hb rfl).2
  next he =>
    obtain ⟨rfl, rfl⟩ := List.cons.inj he
    exact absurd rfl (hb rfl).1
  next he => exact absurd (List.cons.inj he).1 hs
  next he =>
    obtain ⟨rfl, rfl⟩ := List.cons.inj he
    rfl
  next he => exact absurd he (by simp)

/-- No byte of a character beyond ASCII is taken for an operator. -/
theorem scanBytes_append {gate : Gate} {read high : Bytes} (h : ∀ b ∈ high, 0x80 ≤ b)
    (bytes : Bytes) :
    scanBytes gate read (high ++ bytes) = scanBytes gate (high.reverse ++ read) bytes := by
  induction high generalizing read with
  | nil => rfl
  | cons b high ih =>
    obtain ⟨hb, hh⟩ := List.forall_mem_cons.1 h
    have hne {x : UInt8} (hx : x < 0x80) : b ≠ x := by
      rintro rfl
      exact absurd (UInt8.lt_of_le_of_lt hb hx) (UInt8.lt_irrefl _)
    rw [List.cons_append, scanBytes_cons (hne (by decide))
      fun _ => ⟨hne (by decide), hne (by decide)⟩, ih hh]
    simp

theorem scanBytes_encode_cons {gate : Gate} {read : Bytes} {c : Char} {line : Text} (hs : c ≠ ';')
    (hc : Alone c line) :
    scanBytes gate read (encode (c :: line)) =
      scanBytes gate ((String.utf8EncodeChar c).reverse ++ read) (encode line) := by
  change scanBytes gate read (String.utf8EncodeChar c ++ encode line) = _
  rcases Utf8.encodeChar_ascii_or_high c with ⟨b, hb, he, rfl⟩ | hh
  · rw [he]
    refine scanBytes_cons ?_ fun h => ⟨?_, ?_⟩
    · rintro rfl
      exact hs rfl
    · rintro rfl
      exact (hc (Utf8.head?_of_encode hb h)).1 rfl
    · rintro rfl
      exact (hc (Utf8.head?_of_encode hb h)).2 rfl
  · exact scanBytes_append hh _

theorem scanBytes_encode (gate : Gate) (read line : Text) :
    scanBytes gate (encode read.reverse).reverse (encode line) =
      (scan gate read line).map fun s => (s.gate, encode s.text) := by
  fun_induction scan gate read line with
  | case1 gate read rest ih =>
    rw [List.map_cons, ← ih,
      show encode ('|' :: '|' :: rest) = 0x7C :: 0x7C :: encode rest from rfl]
    simp [scanBytes, encode]
  | case2 gate read rest ih =>
    rw [List.map_cons, ← ih,
      show encode ('&' :: '&' :: rest) = 0x26 :: 0x26 :: encode rest from rfl]
    simp [scanBytes, encode]
  | case3 gate read rest ih =>
    rw [List.map_cons, ← ih, show encode (';' :: rest) = 0x3B :: encode rest from rfl]
    simp [scanBytes, encode]
  | case4 gate read c rest ho ha hs ih =>
    rw [scanBytes_encode_cons hs (alone_of_not_operator ho ha), ← ih]
    simp [encode]
  | case5 gate read => simp [scanBytes, encode]

/-- Cutting and writing undo each other: nothing of a line is lost and no character is cut, and the
canonical lists are those that are read back as they were written. -/
theorem ofLine_render_inverse (line : Text) (segments : List Segment) :
    render (ofLine line) = line ∧
      ofBytes (encode line) = ((ofLine line).map fun s => (s.gate, encode s.text)) ∧
      Canonical (ofLine line) ∧ (Canonical segments ↔ ofLine (render segments) = segments) := by
  refine ⟨render_ofLine line, scanBytes_encode .first [] line, canonical_ofLine line, ?_⟩
  constructor
  · exact ofLine_render
  · intro h
    rw [← h]
    exact canonical_ofLine _

/-- Operators are found from left to right, so a third bar is text. -/
example : ofLine "é|||b&|&&&".toList =
    [⟨.first, ['é']⟩, ⟨.or, "|b&|".toList⟩, ⟨.and, ['&']⟩] := by decide

end LineShell.Segment
