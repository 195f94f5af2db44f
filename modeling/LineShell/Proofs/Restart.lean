import LineShell.Proofs.Record
import LineShell.Proofs.Storage

/-!
The history from one session to the next: what a session that has ended leaves in its history file,
and what the next one loads from it.
-/
namespace LineShell

variable {programs : Programs}

namespace Text

theorem trimEnd_sublist (t : Text) : (trimEnd t).Sublist t := by
  have hend := (List.dropWhile_sublist isSpace (l := t.reverse)).reverse
  rwa [List.reverse_reverse] at hend

theorem trim_sublist (t : Text) : (trim t).Sublist t :=
  (trimEnd_sublist _).trans (List.dropWhile_sublist isSpace)

theorem isSpace_of_getLast?_trim {t : Text} {c : Char} (h : (trim t).getLast? = some c) :
    isSpace c = false := by
  rw [trim, trimEnd, List.getLast?_reverse] at h
  have hfirst := List.head?_dropWhile_not isSpace (t.dropWhile isSpace).reverse
  rwa [h] at hfirst

end Text

namespace Session

/-- How the history of a session goes on from the one that it began with: it stays numbered and
bound to its file, and no entry that ends in a carriage return is new. -/
structure Continues (began : History) (s : Session) : Prop where
  kept : s.history.IsWellKept
  path : s.history.path = began.path
  returned : ∀ t ∈ s.history.entries.texts, t.getLast? = some '\r' → t ∈ began.entries.texts

theorem continues_invariant (began : History) : Invariant (Continues began) where
  change _ hs hstep := by
    have hhistory := (Prod.mk.inj hstep.record).1
    exact ⟨hhistory ▸ hs.kept, hhistory ▸ hs.path, hhistory ▸ hs.returned⟩
  status _ hs := ⟨hs.kept, hs.path, hs.returned⟩
  enter {sh line} hline hs := by
    unfold Shell.enter
    dsimp only
    split
    · exact ⟨hs.kept, hs.path, hs.returned⟩
    next hne =>
      -- An entry is trimmed when it is entered, and a carriage return is white space.
      have hnewline : '\n' ∉ Text.trim line := fun hm => hline ((Text.trim_sublist line).mem hm)
      refine ⟨hs.kept.push hne hnewline, (History.path_push _ _).trans hs.path, fun t ht hr => ?_⟩
      rw [History.texts_push] at ht
      rcases List.mem_append.1 (List.mem_of_mem_drop ht) with ht | ht
      · exact hs.returned t ht hr
      · obtain rfl := List.mem_singleton.1 ht
        have hspace := Text.isSpace_of_getLast?_trim hr
        exact absurd hspace (by decide)

end Session

/-- A history with a file is saved by writing the file. -/
theorem History.save_of_path {h : History} {path : Path} (hpath : h.path = some path)
    (fs : FileSystem) (base : Location) :
    ((h.save fs base).1 = .ok () ↔ (fs.write base path h.fileContent).1 = .ok ()) ∧
      (h.save fs base).2 = (fs.write base path h.fileContent).2 := by
  unfold save
  rw [hpath]
  dsimp only
  split
  next hwrite => simp [hwrite]
  next hwrite => simp [hwrite]

namespace Host

/-- Files that were written to are found as they were left. -/
theorem files_of_write {host : Host} {path : Path} (content : Bytes)
    (hapart : ∀ location, host.files.resolve host.directory path .create = .ok (.vacant location) →
      location.head? ≠ System.processRoot.head?) :
    (host.accept (host.files.write host.directory path content).2).files =
      (host.files.write host.directory path content).2 :=
  files_accept (FileSystem.at?_of_write content hapart)

end Host

def Host.storing (content : Bytes) : Host :=
  .boot
    { root := .directory 0 [(['h'], .file 1)]
      inodes := #[{ mode := 0o755 }, { mode := 0o644, content }] }
    [] 1 .nothing true

namespace Shell

variable {sh : Shell}

theorem host_finish (sh : Shell) :
    sh.finish.2.host =
      sh.host.accept (sh.session.history.save sh.host.files sh.host.directory).2 := by
  unfold finish
  dsimp only
  split <;> rfl

/-- What a session with a readable history file has loaded when it starts. -/
theorem history_seeded {s : Session} {fs : FileSystem} {base : Location} {path : Path}
    {loaded : History} (h : History.load fs base path = .ok loaded) :
    (s.seeded fs base (some path)).1.history = loaded := by
  simp [Session.seeded, h]

/-- The history that a session leaves is loaded again, with all numbers and entries exactly if no
entry ends in a carriage return. Entries that do were in the file when the session began. -/
theorem load_after_finish {s : Session} {path : Path} {loaded : History}
    (hload : History.load sh.host.files sh.host.directory path = .ok loaded)
    (hsession : sh.session = (s.seeded sh.host.files sh.host.directory (some path)).1)
    {reader : Reader} {last : Shell} (hlast : last = sh.repl (defaultFactories programs) reader)
    (hkeeps : last.host.files.Keeps last.host.directory path)
    (hsave : (last.session.history.save last.host.files last.host.directory).1 = .ok ()) :
    let ended := last.finish.2.host
    let history := last.session.history
    ∃ again, History.load ended.files ended.directory path = .ok again ∧
      (again.numbered = history.numbered ↔ ∀ t ∈ history.entries.texts, t.getLast? ≠ some '\r') ∧
      ∀ t ∈ history.entries.texts, t.getLast? = some '\r' → t ∈ loaded.entries.texts := by
  intro ended history
  obtain ⟨hkept, hpath⟩ := History.isWellKept_of_load hload
  have hstart : Session.Continues loaded sh.session := by
    have hhistory : sh.session.history = loaded := hsession ▸ history_seeded hload
    exact ⟨hhistory ▸ hkept, hhistory ▸ rfl, fun t ht _ => hhistory ▸ ht⟩
  have hend : Session.Continues loaded last.session := by
    rw [hlast]
    exact (Session.continues_invariant loaded).repl reader hstart
  obtain ⟨hsaved, hleft⟩ := History.save_of_path (hend.path.trans hpath) last.host.files
    last.host.directory
  have hended : ended = last.host.accept _ := last.host_finish
  have hread : ended.files.read ended.directory path = .ok history.fileContent := by
    rw [hended, hleft, Host.directory_accept,
      Host.files_of_write _ fun _ hr => (hkeeps.of_vacant hr).2]
    exact FileSystem.read_of_write hkeeps (hsaved.1 hsave)
  obtain ⟨again, hagain, hsame⟩ := History.load_of_saved hend.kept hread
  exact ⟨again, hagain, hsame, hend.returned⟩

def historyPath : Path := ⟨['/', 'h']⟩

/-- A shell that starts with this file as its history. -/
def starting (host : Host) : Shell :=
  { session := (({} : Session).seeded host.files host.directory (some historyPath)).1, host }

/-- The lines of a file, one with a carriage return in front of its newline and one without a
newline, and an entered line without its comment. -/
theorem load_after_finish_entered :
    let host := Host.storing (Utf8.encode "ls\r\npwd".toList)
    let last := (starting host).repl (defaultFactories .echo) ⟨Utf8.encode "; #\n\n".toList, false⟩
    let ended := last.finish.2.host
    last.session.history.numbered = [(0, "ls".toList), (1, "pwd".toList), (2, [';'])] ∧
      ∃ again, History.load ended.files ended.directory historyPath = .ok again ∧
        again.numbered = last.session.history.numbered := by
  have hfacts :
      let host := Host.storing (Utf8.encode "ls\r\npwd".toList)
      let last :=
        (starting host).repl (defaultFactories .echo) ⟨Utf8.encode "; #\n\n".toList, false⟩
      History.load host.files host.directory historyPath =
          .ok (History.ofLines historyPath ["ls".toList, "pwd".toList]) ∧
        last.host.files.open? last.host.directory historyPath = .ok ([['h']], .file 1) ∧
        1 < last.host.files.inodes.size ∧ last.host.files.mayRead (.file 1) ∧
        (last.session.history.save last.host.files last.host.directory).1 = .ok () ∧
        last.session.history.numbered = [(0, "ls".toList), (1, "pwd".toList), (2, [';'])] ∧
        last.session.history.entries.texts = ["ls".toList, "pwd".toList, [';']] := by
    decide +kernel
  obtain ⟨hload, hopen, hused, hmay, hsave, hnumbered, htexts⟩ := hfacts
  obtain ⟨again, hagain, hsame, -⟩ :=
    load_after_finish hload rfl rfl (.stored hopen hused hmay) hsave
  refine ⟨hnumbered, again, hagain, hsame.2 ?_⟩
  rw [htexts]
  decide

/-- A carriage return at the end of a file without a final newline is lost. -/
theorem load_after_finish_return :
    let host := Host.storing (Utf8.encode ['a', '\r'])
    let last := (starting host).repl (defaultFactories .echo) ⟨[], false⟩
    let ended := last.finish.2.host
    (History.load host.files host.directory historyPath).isOk ∧
      (last.session.history.save last.host.files last.host.directory).1 = .ok () ∧
      last.session.history.numbered = [(0, ['a', '\r'])] ∧
      (History.load ended.files ended.directory historyPath).toOption.map History.numbered =
        some [(0, ['a'])] := by
  decide +kernel

end Shell
end LineShell
