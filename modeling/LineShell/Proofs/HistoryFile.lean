import LineShell.History
import LineShell.Proofs.Lines
import LineShell.Text.Utf8.Ascii

/-!
The history file. A history writes each entry with a newline behind it, and reads the lines of a
file back; the only thing that is lost on the way is a carriage return at the end of an entry.
-/
namespace LineShell

namespace Text

/-- What is read of an entry that was written: a carriage return at its end is taken for a part of
the line end. -/
def withoutReturn (t : Text) : Text := if t.getLast? = some '\r' then t.dropLast else t

theorem withoutReturn_of_ne {t : Text} (h : t.getLast? ≠ some '\r') : t.withoutReturn = t :=
  if_neg h

theorem withoutReturn_eq_iff {t : Text} : t.withoutReturn = t ↔ t.getLast? ≠ some '\r' := by
  constructor
  · intro h hr
    obtain ⟨front, rfl⟩ := List.getLast?_eq_some_iff.1 hr
    rw [withoutReturn, if_pos hr, List.dropLast_concat] at h
    simpa using congrArg List.length h
  · exact withoutReturn_of_ne

/-- The lines of a text as they are read from a file: a newline goes with the carriage return in
front of it. -/
def fileLines (t : Text) : List Text :=
  let pieces := splitWhere (· == '\n') t
  pieces.dropLast.map withoutReturn ++ pieces.getLast?.toList

end Text

namespace Utf8

theorem encode_line (t : Text) : encode t.line = encode t ++ [0x0A] := by
  rw [Text.line, encode_append]
  rfl

theorem newline_not_mem_encode {t : Text} (h : '\n' ∉ t) : ∀ b ∈ encode t, (b == 0x0A) = false := by
  intro b hb
  rw [beq_eq_false_iff_ne]
  rintro rfl
  exact h (mem_of_mem_encode (by decide) hb)

theorem newline_mem_encode {t : Text} (h : '\n' ∈ t) : (0x0A : UInt8) ∈ encode t := by
  obtain ⟨front, back, rfl⟩ := List.append_of_mem h
  rw [encode_append]
  exact List.mem_append_right _ List.mem_cons_self

theorem getLast?_encode_eq_return {t : Text} :
    (encode t).getLast? = some 0x0D ↔ t.getLast? = some '\r' := by
  constructor
  · exact getLast?_of_encode (by decide)
  · intro h
    obtain ⟨front, rfl⟩ := List.getLast?_eq_some_iff.1 h
    rw [encode_append]
    exact List.getLast?_concat

/-- Bytes are cut at the newlines of the text that they spell. -/
theorem splitWhere_encode (t : Text) :
    splitWhere (· == 0x0A) (encode t) = (splitWhere (· == '\n') t).map encode := by
  have hbytes {line : Text} (h : ∀ c ∈ line, (c == '\n') = false) :
      ∀ b ∈ encode line, (b == 0x0A) = false :=
    newline_not_mem_encode fun hm => by simpa using h _ hm
  induction t using parted_induction (· == '\n') with
  | whole line h =>
    rw [splitWhere_of_forall h, splitWhere_of_forall (hbytes h), List.map_singleton]
  | parted line c rest h hc ih =>
    obtain rfl := eq_of_beq hc
    have hencode : encode (line ++ '\n' :: rest) = encode line ++ 0x0A :: encode rest :=
      encode_append line ('\n' :: rest)
    rw [hencode, splitWhere_append_cons rfl, splitWhere_append_cons rfl, List.map_append, ih,
      splitWhere_of_forall h, splitWhere_of_forall (hbytes h), List.map_singleton]

end Utf8

namespace Entries

theorem texts_renumber (es : Entries) : es.renumber.texts = es.texts := by
  refine List.ext_getElem ?_ ?_ <;> simp [renumber, texts]

theorem tags_renumber (es : Entries) : es.renumber.toList.map (·.tag) = List.range es.size := by
  refine List.ext_getElem ?_ ?_ <;> simp [renumber, size]

theorem size_renumber (es : Entries) : es.renumber.size = es.size := by simp [renumber, size]

theorem texts_latest (es : Entries) (cap : Nat) :
    (es.latest cap).texts = es.texts.drop (es.size - cap) := by simp [latest, texts]

theorem size_latest_le (es : Entries) (cap : Nat) : (es.latest cap).size ≤ cap := by
  simp [latest, size]
  omega

theorem texts_push (es : Entries) (t : Text) (tag : Nat) :
    (es.push t tag).texts = es.texts ++ [t] := by simp [push, texts]

theorem size_push (es : Entries) (t : Text) (tag : Nat) : (es.push t tag).size = es.size + 1 := by
  simp [push, size]

end Entries

namespace History

/-! ### The lines of the file -/

theorem dropReturn_encode (t : Text) :
    dropReturn (Utf8.encode t) = Utf8.encode t.withoutReturn := by
  unfold dropReturn Text.withoutReturn
  by_cases h : t.getLast? = some '\r'
  · rw [if_pos (Utf8.getLast?_encode_eq_return.2 h), if_pos h]
    obtain ⟨front, rfl⟩ := List.getLast?_eq_some_iff.1 h
    rw [Utf8.encode_append, List.dropLast_concat]
    exact List.dropLast_concat
  · rw [if_neg (mt Utf8.getLast?_encode_eq_return.1 h), if_neg h]

theorem splitWhere_written {texts : List Text} (h : ∀ t ∈ texts, '\n' ∉ t) :
    splitWhere (· == 0x0A) (texts.flatMap fun t => Utf8.encode t.line) =
      texts.map Utf8.encode ++ [[]] := by
  induction texts with
  | nil => rfl
  | cons t texts ih =>
    obtain ⟨ht, htexts⟩ := List.forall_mem_cons.1 h
    have hfirst := splitWhere_of_forall (Utf8.newline_not_mem_encode ht)
    rw [List.flatMap_cons, Utf8.encode_line, List.append_assoc, List.singleton_append,
      splitWhere_append_cons (by rfl), hfirst, ih htexts]
    rfl

theorem mapM_decode?_eq_some_iff {pieces : List Bytes} {texts : List Text} :
    pieces.mapM Utf8.decode? = some texts ↔ pieces = texts.map Utf8.encode := by
  induction pieces generalizing texts with
  | nil =>
    rw [List.mapM_nil]
    cases texts <;> simp
  | cons piece pieces ih =>
    cases texts with
    | nil => simp [Option.bind_eq_some_iff]
    | cons t texts => simp [Option.bind_eq_some_iff, Utf8.decode?_eq_some_iff, ih]

/-- The lines of a file as bytes, without what stands in front of a newline for a line end. -/
def rawLines (content : Bytes) : List Bytes :=
  (splitWhere (· == 0x0A) content).dropLast.map dropReturn ++
    (splitWhere (· == 0x0A) content).getLast?.toList

theorem fileLines?_eq_some_iff {content : Bytes} {lines : List Text} :
    fileLines? content = some lines ↔ rawLines content = lines.map Utf8.encode :=
  mapM_decode?_eq_some_iff

/-- Whatever text a file holds, its lines are read. -/
theorem fileLines?_encode (t : Text) : fileLines? (Utf8.encode t) = some t.fileLines := by
  have hfront (pieces : List Text) : (pieces.map Utf8.encode).map dropReturn =
      (pieces.map Text.withoutReturn).map Utf8.encode := by
    rw [List.map_map, List.map_map]
    exact List.map_congr_left fun piece _ => dropReturn_encode piece
  rw [fileLines?_eq_some_iff, rawLines, Utf8.splitWhere_encode, ← List.map_dropLast, hfront,
    List.getLast?_map, Text.fileLines, List.map_append]
  cases (splitWhere (· == '\n') t).getLast? <;> rfl

theorem dropReturn_subset (line : Bytes) : dropReturn line ⊆ line := by
  unfold dropReturn
  split
  · exact List.dropLast_subset line
  · exact List.Subset.refl line

theorem newline_not_mem_of_mem_rawLines {content line : Bytes} (h : line ∈ rawLines content) :
    (0x0A : UInt8) ∉ line := by
  have hpiece {piece : Bytes} (hp : piece ∈ splitWhere (· == 0x0A) content) :
      (0x0A : UInt8) ∉ piece := fun hm => by simpa using not_of_mem_splitWhere hp _ hm
  rcases List.mem_append.1 h with hm | hm
  · obtain ⟨piece, hp, rfl⟩ := List.mem_map.1 hm
    exact fun hn => hpiece (List.dropLast_subset _ hp) (dropReturn_subset piece hn)
  · exact hpiece (List.mem_of_getLast? (Option.mem_toList.1 hm))

theorem newline_not_mem_of_fileLines? {content : Bytes} {lines : List Text}
    (h : fileLines? content = some lines) {line : Text} (hl : line ∈ lines) : '\n' ∉ line := by
  have hraw : Utf8.encode line ∈ rawLines content :=
    fileLines?_eq_some_iff.1 h ▸ List.mem_map_of_mem hl
  exact fun hm => newline_not_mem_of_mem_rawLines hraw (Utf8.newline_mem_encode hm)

/-- What is read of a file that entries without newlines were written to. -/
theorem fileLines?_written {texts : List Text} (h : ∀ t ∈ texts, '\n' ∉ t) :
    fileLines? (texts.flatMap fun t => Utf8.encode t.line) =
      some (texts.map Text.withoutReturn ++ [[]]) := by
  rw [fileLines?_eq_some_iff, rawLines, splitWhere_written h, List.dropLast_concat,
    List.getLast?_concat, List.map_append, List.map_map, List.map_map]
  exact congrArg (· ++ [[]]) (List.map_congr_left fun t _ => dropReturn_encode t)

/-! ### Entries and their numbers -/

theorem size_texts (h : History) : h.entries.texts.length = h.size := List.length_map _

/-- An entry comes last, and the oldest goes where there are too many. -/
theorem texts_push (h : History) (t : Text) :
    (h.push t).entries.texts = (h.entries.texts ++ [t]).drop (h.size + 1 - capacity) := by
  unfold push
  dsimp only
  split
  next hfull =>
    rw [Entries.texts_renumber, Entries.texts_latest, Entries.texts_push, Entries.size_push, size]
  next hfits =>
    have hnone : h.size + 1 - capacity = 0 := by
      rw [Entries.size_push] at hfits
      exact Nat.sub_eq_zero_of_le (Nat.not_lt.1 hfits)
    rw [hnone, List.drop_zero, Entries.texts_push]

/-- Numbered from 0, with the number that comes next, and no longer than it may be. -/
structure IsNumbered (h : History) : Prop where
  numbers : h.entries.toList.map (·.tag) = List.range h.size
  next : h.nextTag = h.size
  bounded : h.size ≤ capacity

namespace IsNumbered

variable {h : History}

theorem numbered_eq (hn : h.IsNumbered) :
    h.numbered = (List.range h.size).zip h.entries.texts := by
  rw [← hn.numbers, Entries.texts, List.zip_map']
  rfl

/-- The numbers follow from the entries. -/
theorem numbered_eq_iff {h' : History} (hn : h.IsNumbered) (hn' : h'.IsNumbered) :
    h.numbered = h'.numbered ↔ h.entries.texts = h'.entries.texts := by
  constructor
  · intro he
    have := congrArg (List.map Prod.snd) he
    rwa [numbered, numbered, List.map_map, List.map_map] at this
  · intro he
    have hsize : h.size = h'.size := by rw [← size_texts, he, size_texts]
    rw [hn.numbered_eq, hn'.numbered_eq, he, hsize]

/-- Numbering entries anew makes a history of them. -/
theorem of_renumber {es : Entries} (hsize : es.size ≤ capacity) (path : Option Path) :
    IsNumbered { entries := es.renumber, nextTag := es.renumber.size, path } where
  numbers := by rw [Entries.tags_renumber, size, Entries.size_renumber]
  next := rfl
  bounded := Nat.le_trans (Nat.le_of_eq (Entries.size_renumber es)) hsize

theorem push (hn : h.IsNumbered) (t : Text) : (h.push t).IsNumbered := by
  unfold History.push
  dsimp only
  split
  next hfull => exact .of_renumber (Entries.size_latest_le _ _) h.path
  next hfits =>
    refine ⟨?_, ?_, Nat.not_lt.1 hfits⟩
    · have hsize := Entries.size_push h.entries t h.nextTag
      rw [size, hsize, List.range_succ, hn.next, ← size, ← hn.numbers]
      exact List.map_append
    · exact (congrArg (· + 1) hn.next).trans (Entries.size_push h.entries t h.nextTag).symm

end IsNumbered

/-- Numbered from 0 and no longer than it may be, and each entry is a line. -/
structure IsWellKept (h : History) : Prop where
  numbers : h.entries.toList.map (·.tag) = List.range h.size
  next : h.nextTag = h.size
  bounded : h.size ≤ capacity
  lines : ∀ t ∈ h.entries.texts, t ≠ [] ∧ '\n' ∉ t

theorem isWellKept_iff {h : History} :
    h.IsWellKept ↔ h.IsNumbered ∧ ∀ t ∈ h.entries.texts, t ≠ [] ∧ '\n' ∉ t :=
  ⟨fun hk => ⟨⟨hk.numbers, hk.next, hk.bounded⟩, hk.lines⟩,
    fun ⟨hn, hlines⟩ => ⟨hn.numbers, hn.next, hn.bounded, hlines⟩⟩

theorem IsWellKept.isNumbered {h : History} (hk : h.IsWellKept) : h.IsNumbered :=
  (isWellKept_iff.1 hk).1

theorem IsWellKept.push {h : History} (hk : h.IsWellKept) {t : Text} (ht : t ≠ [])
    (hn : '\n' ∉ t) : (h.push t).IsWellKept := by
  refine isWellKept_iff.2 ⟨hk.isNumbered.push t, fun u hu => ?_⟩
  rw [texts_push] at hu
  rcases List.mem_append.1 (List.mem_of_mem_drop hu) with hu | hu
  · exact hk.lines u hu
  · obtain rfl := List.mem_singleton.1 hu
    exact ⟨ht, hn⟩

theorem path_push (h : History) (t : Text) : (h.push t).path = h.path := by
  unfold push
  dsimp only
  split <;> rfl

theorem texts_ofLines (path : Option Path) (lines : List Text) :
    (ofLines path lines).entries.texts =
      (lines.filter (!·.isEmpty)).drop ((lines.filter (!·.isEmpty)).length - capacity) := by
  rw [ofLines, Entries.texts_renumber, Entries.texts_latest]
  simp [Entries.texts, Entries.size, List.map_map, Function.comp_def]

theorem isNumbered_ofLines (path : Option Path) (lines : List Text) :
    (ofLines path lines).IsNumbered := .of_renumber (Entries.size_latest_le _ _) path

theorem isWellKept_ofLines {lines : List Text} (h : ∀ line ∈ lines, '\n' ∉ line)
    (path : Option Path) : (ofLines path lines).IsWellKept := by
  have hlines : ∀ t ∈ (ofLines path lines).entries.texts, t ≠ [] ∧ '\n' ∉ t := by
    intro t ht
    rw [texts_ofLines] at ht
    obtain ⟨hm, hne⟩ := List.mem_filter.1 (List.mem_of_mem_drop ht)
    exact ⟨by simpa using hne, h t hm⟩
  exact isWellKept_iff.2 ⟨isNumbered_ofLines path lines, hlines⟩

/-! ### Loading -/

theorem load_of_read {fs : FileSystem} {base : Location} {path : Path} {content : Bytes}
    (h : fs.read base path = .ok content) :
    load fs base path =
      match fileLines? content with
      | none => .error (.history path .invalidUtf8)
      | some lines => .ok (ofLines path lines) := by
  rewrite [load, h]
  rfl

theorem isWellKept_of_load {fs : FileSystem} {base : Location} {path : Path} {h : History}
    (hload : load fs base path = .ok h) : h.IsWellKept ∧ h.path = some path := by
  unfold load at hload
  split at hload
  · split at hload
    · obtain rfl := Except.ok.inj hload
      exact ⟨⟨rfl, rfl, Nat.zero_le _, by simp [Entries.texts]⟩, rfl⟩
    · simp at hload
  · simp at hload
  · split at hload
    · simp at hload
    next lines hlines =>
      obtain rfl := Except.ok.inj hload
      exact ⟨isWellKept_ofLines (fun _ hl => newline_not_mem_of_fileLines? hlines hl) _, rfl⟩

/-- Entries that lose nothing when they are read again, none of them empty, are those that do not
end in a carriage return. -/
theorem filter_withoutReturn_eq_iff {texts : List Text} (h : ∀ t ∈ texts, t ≠ []) :
    (texts.map Text.withoutReturn).filter (!·.isEmpty) = texts ↔
      ∀ t ∈ texts, t.getLast? ≠ some '\r' := by
  constructor
  · intro he
    have hall :
        (texts.map Text.withoutReturn).filter (!·.isEmpty) = texts.map Text.withoutReturn := by
      refine List.filter_eq_self.2 (List.length_filter_eq_length_iff.1 ?_)
      rw [he, List.length_map]
    have hmap : texts.map Text.withoutReturn = texts.map id := by rw [← hall, he, List.map_id]
    exact fun t ht => Text.withoutReturn_eq_iff.1 (List.map_inj_left.1 hmap t ht)
  · intro hr
    have hmap : texts.map Text.withoutReturn = texts := by
      rw [List.map_congr_left fun t ht => Text.withoutReturn_of_ne (hr t ht), List.map_id']
    rw [hmap]
    exact List.filter_eq_self.2 fun t ht => by simpa using h t ht

/-- What a saved history is loaded as. It is the same exactly if no entry ends in a carriage
return. -/
theorem load_of_saved {h : History} (hk : h.IsWellKept) {fs : FileSystem} {base : Location}
    {path : Path} (hread : fs.read base path = .ok h.fileContent) :
    ∃ again, load fs base path = .ok again ∧
      (again.numbered = h.numbered ↔ ∀ t ∈ h.entries.texts, t.getLast? ≠ some '\r') := by
  let lines := h.entries.texts.map Text.withoutReturn
  let texts := lines.filter (!·.isEmpty)
  have hlines : fileLines? h.fileContent = some (lines ++ [[]]) :=
    fileLines?_written fun t ht => (hk.lines t ht).2
  have hload : load fs base path = .ok (ofLines path (lines ++ [[]])) := by
    rw [load_of_read hread, hlines]
  have hfits : texts.length ≤ capacity := by
    have hfilter := List.length_filter_le (!·.isEmpty) lines
    rw [List.length_map, size_texts] at hfilter
    exact Nat.le_trans hfilter hk.bounded
  have htexts : (ofLines path (lines ++ [[]])).entries.texts = texts := by
    have hempty : (lines ++ [[]]).filter (!·.isEmpty) = texts := by simp [texts]
    rw [texts_ofLines, hempty, Nat.sub_eq_zero_of_le hfits, List.drop_zero]
  refine ⟨_, hload, ?_⟩
  rw [(isWellKept_of_load hload).1.isNumbered.numbered_eq_iff hk.isNumbered, htexts]
  exact filter_withoutReturn_eq_iff fun t ht => (hk.lines t ht).1

/-! ### Lines of a file that was loaded -/

end History
end LineShell
