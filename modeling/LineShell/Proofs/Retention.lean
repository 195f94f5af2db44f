import LineShell.Proofs.Restart

/-!
What is kept of texts that are pushed to a history, whatever they are. The history keeps the latest,
numbered from 0. Its file can always be loaded again, and gives the same entries back exactly if
each of them is one line.
-/
namespace LineShell.History

variable {programs : Programs}

variable {h : History} {fs : FileSystem} {base : Location} {path : Path}

/-! ### Numbers and texts -/

theorem isNumbered_new (path : Option Path) : IsNumbered { path } := ⟨rfl, rfl, Nat.zero_le _⟩

theorem IsNumbered.foldl_push (hn : h.IsNumbered) (texts : List Text) :
    (texts.foldl History.push h).IsNumbered :=
  List.foldlRecOn texts History.push hn fun _ hn t _ => hn.push t

theorem path_foldl_push (h : History) (texts : List Text) :
    (texts.foldl push h).path = h.path := by
  induction texts generalizing h with
  | nil => rfl
  | cons t texts ih => rw [List.foldl_cons, ih, path_push]

/-- Whatever text a file holds, its latest lines are loaded, without the empty ones. -/
theorem load_of_text {t : Text} (hread : fs.read base path = .ok (Utf8.encode t)) :
    ∃ loaded, load fs base path = .ok loaded ∧
      loaded.entries.texts = (t.fileLines.filter (!·.isEmpty)).rtake capacity := by
  refine ⟨ofLines path t.fileLines, ?_, texts_ofLines path t.fileLines⟩
  rw [load_of_read hread, fileLines?_encode]

/-- A history that began empty, or was loaded, and was then pushed to is numbered from 0 without a
gap, and keeps the latest of all that it was given. The number that comes next is the length, so it
never grows beyond a machine word, not even while a text is pushed. -/
theorem numbered_of_pushes {start : History}
    (hstart : (∃ path, start = { path }) ∨ load fs base path = .ok start) (texts : List Text) :
    let h := texts.foldl push start
    (h.size ≤ 4096 ∧ h.numbered.map (·.1) = List.range h.size ∧ h.nextTag = h.size ∧
        h.nextTag + 1 < UInt64.size) ∧
      h.entries.texts = (start.entries.texts ++ texts).rtake 4096 ∧
      ∀ (fs : FileSystem) (base : Location) (path : Path) (t : Text),
        fs.read base path = .ok (Utf8.encode t) →
          ∃ loaded, load fs base path = .ok loaded ∧
            loaded.entries.texts = (t.fileLines.filter (!·.isEmpty)).rtake 4096 := by
  intro h
  have hbegan : start.IsNumbered := by
    rcases hstart with ⟨path, rfl⟩ | hload
    · exact isNumbered_new path
    · exact (isWellKept_of_load hload).1.isNumbered
  have hn : h.IsNumbered := hbegan.foldl_push texts
  have hbounded : h.size ≤ 4096 := hn.bounded
  refine ⟨⟨hbounded, ?_, hn.next, ?_⟩, texts_foldl_push hbegan.bounded texts,
    fun _ _ _ _ hread => load_of_text hread⟩
  · rw [← hn.numbers, numbered, List.map_map]
    rfl
  · rw [hn.next]
    unfold UInt64.size
    omega

/-- Blank lines of the file are left out and the carriage return of a line end goes with it. Empty
texts that are pushed count, and the oldest entry makes room for the last. -/
theorem numbered_of_pushes_full :
    let files := (Host.storing (Utf8.encode "a\r\n\n\r\nb\r".toList)).files
    let pushed : List Text := List.replicate 4094 [] ++ ["c\nd".toList]
    ∃ start, load files [] Shell.historyPath = .ok start ∧
      start.entries.texts = [['a'], ['b', '\r']] ∧
      (pushed.foldl push start).entries.texts = ['b', '\r'] :: pushed ∧
      (pushed.foldl push start).numbered.map (·.1) = List.range 4096 := by
  intro files pushed
  have hread : files.read [] Shell.historyPath = .ok (Utf8.encode "a\r\n\n\r\nb\r".toList) := by
    simp only [files]
    decide +kernel
  obtain ⟨start, hload, htexts⟩ := load_of_text hread
  have hstart : start.entries.texts = [['a'], ['b', '\r']] := by
    rw [htexts]
    decide
  obtain ⟨⟨-, hnumbers, -⟩, hlatest, -⟩ := numbered_of_pushes (.inr hload) pushed
  have hlength : pushed.length = 4095 := by
    rw [List.length_append, List.length_replicate, List.length_singleton]
  clear_value pushed
  have hall : (pushed.foldl push start).entries.texts = ['b', '\r'] :: pushed := by
    rw [hlatest, hstart, List.rtake, List.length_append, hlength]
    rfl
  have hsize : (pushed.foldl push start).size = 4096 := by
    rw [← size_texts, hall, List.length_cons, hlength]
  exact ⟨start, hload, hstart, hall, hsize ▸ hnumbers⟩

/-! ### The file -/

/-- Each entry is one line: there is something in it, no newline, and no carriage return at its
end. -/
def IsPlain (h : History) : Prop :=
  ∀ t ∈ h.entries.texts, t ≠ [] ∧ '\n' ∉ t ∧ t.getLast? ≠ some '\r'

theorem fileContent_eq (h : History) :
    h.fileContent = Utf8.encode (h.entries.texts.flatMap Text.line) := by
  rw [fileContent, Utf8.encode, List.flatMap_assoc]
  rfl

theorem save_of_write (hpath : h.path = some path) {saved : FileSystem}
    (hwrite : fs.write base path h.fileContent = (.ok (), saved)) :
    h.save fs base = (.ok (), saved) := by
  unfold save
  rw [hpath]
  dsimp only
  rw [hwrite]

/-- What is saved is loaded again, with the same entries exactly if each is one line. -/
theorem load_of_fileContent (hn : h.IsNumbered) (hread : fs.read base path = .ok h.fileContent) :
    ∃ again, load fs base path = .ok again ∧ (again.numbered = h.numbered ↔ h.IsPlain) := by
  rw [fileContent_eq] at hread
  obtain ⟨again, hload, -⟩ := load_of_text hread
  rw [← fileContent_eq] at hread
  obtain ⟨hkept, -⟩ := isWellKept_of_load hload
  have hreturn (hlines : ∀ t ∈ h.entries.texts, t ≠ [] ∧ '\n' ∉ t) :
      again.numbered = h.numbered ↔ ∀ t ∈ h.entries.texts, t.getLast? ≠ some '\r' := by
    obtain ⟨other, hother, hsame⟩ := load_of_saved (isWellKept_iff.2 ⟨hn, hlines⟩) hread
    obtain rfl := Except.ok.inj (hload.symm.trans hother)
    exact hsame
  refine ⟨again, hload, fun hsame t ht => ?_, fun hplain => ?_⟩
  · -- All that is loaded is lines, so no entry that is none can make up for another.
    have htexts := (hkept.isNumbered.numbered_eq_iff hn).1 hsame
    have hlines : ∀ t ∈ h.entries.texts, t ≠ [] ∧ '\n' ∉ t := htexts ▸ hkept.lines
    obtain ⟨hne, hnewline⟩ := hlines t ht
    exact ⟨hne, hnewline, (hreturn hlines).1 hsame t ht⟩
  · have hlines : ∀ t ∈ h.entries.texts, t ≠ [] ∧ '\n' ∉ t :=
      fun t ht => ⟨(hplain t ht).1, (hplain t ht).2.1⟩
    exact (hreturn hlines).2 fun t ht => (hplain t ht).2.2

/-- Lines that are entered are trimmed, so each entry that they make is one line. -/
theorem isPlain_repl {sh : Shell} {path : Option Path} (hempty : sh.session.history = { path })
    (reader : Reader) : (sh.repl (defaultFactories programs) reader).session.history.IsPlain := by
  have hstart : Session.Continues { path } sh.session := by
    refine ⟨?_, congrArg History.path hempty, fun t ht _ => hempty ▸ ht⟩
    rw [hempty]
    exact isWellKept_iff.2 ⟨isNumbered_new path, by simp [Entries.texts]⟩
  have hend : Session.Continues { path } (sh.repl (defaultFactories programs) reader).session :=
    (Session.continues_invariant { path }).repl reader hstart
  intro t ht
  obtain ⟨hne, hnewline⟩ := hend.kept.lines t ht
  refine ⟨hne, hnewline, fun hr => ?_⟩
  have hnone := hend.returned t ht hr
  simp [Entries.texts] at hnone

/-- A history that was made of any texts can be saved, where there is room for it, and loaded
again. It is then the same exactly if each of its entries is one line; those of lines that were
read are. -/
theorem load_of_saved_pushes (hstores : fs.Stores base path) (texts : List Text)
    (hroom : fs.HasRoom (texts.foldl push { path := some path }).fileContent) :
    let h := texts.foldl push { path := some path }
    (∃ saved again, h.save fs base = (.ok (), saved) ∧
        load saved base path = .ok again ∧
        (again.numbered = h.numbered ↔
          ∀ t ∈ h.entries.texts, t ≠ [] ∧ '\n' ∉ t ∧ t.getLast? ≠ some '\r')) ∧
      ∀ (sh : Shell) (path : Option Path) (reader : Reader), sh.session.history = { path } →
        ∀ t ∈ (sh.repl (defaultFactories programs) reader).session.history.entries.texts,
          t ≠ [] ∧ '\n' ∉ t ∧ t.getLast? ≠ some '\r' := by
  intro h
  have hn : h.IsNumbered := (isNumbered_new _).foldl_push texts
  have hpath : h.path = some path := path_foldl_push _ texts
  obtain ⟨saved, hwrite, hread⟩ := hstores.exists_write hroom
  obtain ⟨again, hload, hsame⟩ := load_of_fileContent hn hread
  exact ⟨⟨saved, again, save_of_write hpath hwrite, hload, hsame⟩,
    fun _ _ reader hempty => isPlain_repl hempty reader⟩

/-- A text of two lines beside an empty one: two entries are loaded, and they are others. -/
theorem load_of_saved_pushes_two :
    let h := ["a\nb".toList, []].foldl push { path := some Shell.historyPath }
    ∃ saved again, h.save {} [] = (.ok (), saved) ∧
      load saved [] Shell.historyPath = .ok again ∧
      h.numbered = [(0, "a\nb".toList), (1, [])] ∧ again.numbered ≠ h.numbered := by
  intro h
  have hleads : ({} : FileSystem).resolve [] Shell.historyPath .create = .ok (.vacant [['h']]) := by
    decide +kernel
  have hstores : ({} : FileSystem).Stores [] Shell.historyPath := .vacant hleads rfl rfl
  obtain ⟨⟨saved, again, hsave, hload, hsame⟩, -⟩ :=
    @load_of_saved_pushes .echo _ _ _ hstores ["a\nb".toList, []] nofun
  refine ⟨saved, again, hsave, hload, by decide, fun hagain => ?_⟩
  obtain ⟨-, hnewline, -⟩ := hsame.1 hagain "a\nb".toList (by decide)
  exact hnewline (by decide)

end LineShell.History
