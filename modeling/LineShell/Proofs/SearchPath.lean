import LineShell.Host.Lookup
import LineShell.Proofs.Words

/-!
Searching for the file of a command. A search path is its entries one behind the other, so one that
is put behind another is searched where the other has nothing.
-/
namespace LineShell

/-- Cutting at a character finds the pieces again that it was put between. -/
theorem Text.splitWhere_joined {sep : Char} {parts : List Text} (hne : parts ≠ [])
    (hplain : ∀ part ∈ parts, sep ∉ part) :
    splitWhere (· == sep) (joined [sep] parts) = parts := by
  induction parts with
  | nil => exact absurd rfl hne
  | cons part parts ih =>
    obtain ⟨hpart, hparts⟩ := List.forall_mem_cons.1 hplain
    have hsingle : splitWhere (· == sep) part = [part] :=
      splitWhere_of_forall fun c hc => beq_false_of_ne fun he => hpart (he ▸ hc)
    cases parts with
    | nil => simpa [joined] using hsingle
    | cons next parts =>
      rw [joined_cons [sep] part (List.cons_ne_nil next parts), List.append_assoc,
        List.singleton_append, splitWhere_append_cons (p := (· == sep)) (beq_self_eq_true sep),
        hsingle, ih (List.cons_ne_nil next parts) hparts, List.singleton_append]

namespace Path

/-- Where an entry of a search path has a name: in the directory of the entry, which for an empty
one is the directory that the others start from. -/
def candidate (directory : Path) (entry name : Text) : Path :=
  if entry = [] then directory.join (.ofText name)
  else (directory.join (.ofText entry)).join (.ofText name)

theorem candidates_eq (search : Text) (directory : Path) (name : Text) :
    candidates search directory name =
      (splitWhere (· == ':') search).map (directory.candidate · name) := rfl

/-- A search path is made of its entries, with one colon between neighbours. -/
structure IsSearch (search : Text) (entries : List Text) : Prop where
  some_entry : entries ≠ []
  plain : ∀ entry ∈ entries, ':' ∉ entry
  joined : Text.joined [':'] entries = search

theorem IsSearch.candidates {search : Text} {entries : List Text} (h : IsSearch search entries)
    (directory : Path) (name : Text) :
    Path.candidates search directory name = entries.map (directory.candidate · name) := by
  rw [candidates_eq, ← h.joined, Text.splitWhere_joined h.some_entry h.plain]

end Path

namespace FileSystem

/-- A path that leads to a regular file with an execute bit. -/
def IsCommand (fs : FileSystem) (base : Location) (p : Path) : Prop :=
  ∃ location node, fs.open? base p = .ok (location, node) ∧ node.isFile ∧
    fs.mode node &&& 0o111 ≠ 0

theorem isExecutable_iff {fs : FileSystem} {base : Location} {p : Path} :
    fs.isExecutable base p ↔ fs.IsCommand base p := by
  rw [isExecutable, IsCommand]
  cases h : fs.open? base p with
  | error e => simp
  | ok found =>
    obtain ⟨location, node⟩ := found
    constructor
    · intro hrunnable
      exact ⟨location, node, rfl, by simpa [isRunnable] using hrunnable⟩
    · rintro ⟨_, _, hfound, hrunnable⟩
      obtain ⟨rfl, rfl⟩ := Prod.mk.inj (Except.ok.inj hfound)
      simpa [isRunnable] using hrunnable

variable (fs : FileSystem) (base : Location) (directory : Path) (name : Text)

/-- One search path behind another, with a colon between them. -/
theorem find?_append (front back : Text) :
    fs.find? base (some (front ++ ':' :: back)) directory name =
      (fs.find? base (some front) directory name).or
        (fs.find? base (some back) directory name) := by
  unfold find?
  dsimp only
  split_ifs
  · rfl
  · rfl
  · rfl
  · rw [Path.candidates_eq, Path.candidates_eq, Path.candidates_eq,
      splitWhere_append_cons (p := (· == ':')) rfl, List.map_append, List.find?_append]

theorem find?_eq_some_iff (hname : '/' ∉ name) {search : Text} {entries : List Text}
    (hsearch : Path.IsSearch search entries) {found : Path} :
    fs.find? base (some search) directory name = some found ↔
      name ≠ [] ∧ ∃ before entry behind, entries = before ++ entry :: behind ∧
        found = directory.candidate entry name ∧ fs.IsCommand base found ∧
        ∀ other ∈ before, ¬ fs.IsCommand base (directory.candidate other name) := by
  have hslash : ¬ name.contains '/' = true := by simpa using hname
  rw [find?]
  by_cases hempty : name = []
  · simp [hempty]
  rw [if_neg hempty, if_neg hslash, hsearch.candidates, List.find?_map, Option.map_eq_some_iff]
  constructor
  · rintro ⟨entry, hentry, rfl⟩
    obtain ⟨hcommand, before, behind, rfl, hbefore⟩ := List.find?_eq_some_iff_append.1 hentry
    refine ⟨hempty, before, entry, behind, rfl, rfl, isExecutable_iff.1 hcommand,
      fun other hother hother' => ?_⟩
    have hfails := hbefore other hother
    simp [isExecutable_iff.2 hother'] at hfails
  · rintro ⟨-, before, entry, behind, rfl, rfl, hcommand, hbefore⟩
    refine ⟨entry, List.find?_eq_some_iff_append.2
      ⟨isExecutable_iff.2 hcommand, before, behind, rfl, fun other hother => ?_⟩, rfl⟩
    simpa using mt isExecutable_iff.1 (hbefore other hother)

/-- Searching a path searches its entries in their order, and the first candidate wins that is a
command. What is put behind a search path is searched only where nothing was found before it, so it
does not change what a name stands for that has been found. An empty search path has one entry, and
one that is not set has none. -/
theorem find?_search :
    let find (search : Option Text) := fs.find? base search directory name
    (∀ front back : Text,
        find (some (front ++ ':' :: back)) = (find (some front)).or (find (some back)) ∧
          ∀ found, find (some front) = some found →
            find (some (front ++ ':' :: back)) = some found) ∧
      ('/' ∉ name →
        (∀ search entries, Path.IsSearch search entries → ∀ found,
          find (some search) = some found ↔
            name ≠ [] ∧ ∃ before entry behind, entries = before ++ entry :: behind ∧
              found = directory.candidate entry name ∧ fs.IsCommand base found ∧
              ∀ other ∈ before, ¬ fs.IsCommand base (directory.candidate other name)) ∧
        (∀ found, find (some []) = some found ↔
          name ≠ [] ∧ found = directory.join (.ofText name) ∧ fs.IsCommand base found) ∧
        find none = none) := by
  intro find
  refine ⟨fun front back => ?_, fun hname => ⟨?_, fun found => ?_, ?_⟩⟩
  · have happend := fs.find?_append base directory name front back
    refine ⟨happend, fun found hfound => happend.trans ?_⟩
    rw [show fs.find? base (some front) directory name = some found from hfound, Option.some_or]
  · exact fun search entries hsearch found =>
      fs.find?_eq_some_iff base directory name hname hsearch
  · have hsingle : Path.IsSearch [] [[]] := ⟨by simp, by simp, rfl⟩
    refine (fs.find?_eq_some_iff base directory name hname hsingle).trans ?_
    constructor
    · rintro ⟨hne, before, entry, behind, hentries, hfound, hcommand, -⟩
      cases before with
      | nil =>
        obtain ⟨rfl, -⟩ := List.cons.inj hentries
        exact ⟨hne, hfound, hcommand⟩
      | cons => simp at hentries
    · rintro ⟨hne, hfound, hcommand⟩
      exact ⟨hne, [], [], [], rfl, hfound, hcommand, by simp⟩
  · have hslash : ¬ name.contains '/' = true := by simpa using hname
    change fs.find? base none directory name = none
    rw [find?, if_neg hslash]
    exact ite_self _

/-- The files of a host with a tool that may not be run, a directory of that name, and a tool that
may be run. -/
def tooled : FileSystem where
  root := .directory 0
    [("tool".toList, .directory 0 []), ("bin".toList, .directory 0 [("tool".toList, .file 1)]),
      ("opt".toList, .directory 0 [("tool".toList, .file 2)])]
  inodes := #[{ mode := 0o755 }, { mode := 0o644 }, { mode := 0o711 }]

theorem isExecutable_tooled :
    tooled.isExecutable [] ⟨"/tool".toList⟩ = false ∧
      tooled.isExecutable [] ⟨"/bin/tool".toList⟩ = false ∧
      tooled.isExecutable [] ⟨"/opt/tool".toList⟩ = true := by
  refine ⟨by decide +kernel, by decide +kernel, by decide +kernel⟩

/-- The tool that may be run stands behind two that may not, and is found also where there is more
to search. Without an entry that leads to it there is none. -/
theorem find?_search_tooled :
    let root : Path := ⟨"/".toList⟩
    let tool := "tool".toList
    let search := ":/bin:opt".toList
    let entries := [[], "/bin".toList, "opt".toList]
    '/' ∉ tool ∧ Path.IsSearch search entries ∧
      tooled.find? [] (some search) root tool = some ⟨"/opt/tool".toList⟩ ∧
      tooled.find? [] (some (search ++ ':' :: "/usr".toList)) root tool =
        some ⟨"/opt/tool".toList⟩ ∧
      tooled.find? [] (some []) root tool = none ∧ tooled.find? [] none root tool = none := by
  intro root tool search entries
  have hname : '/' ∉ tool := by decide
  have hsearch : Path.IsSearch search entries := ⟨by decide, by decide, by decide⟩
  obtain ⟨hdirectory, hplain, hcommand⟩ := isExecutable_tooled
  obtain ⟨happend, hsearches⟩ := tooled.find?_search [] root tool
  obtain ⟨hfirst, hempty, hunset⟩ := hsearches hname
  have hfound : tooled.find? [] (some search) root tool = some ⟨"/opt/tool".toList⟩ := by
    refine (hfirst search entries hsearch _).2
      ⟨by decide, [[], "/bin".toList], "opt".toList, [], rfl, by decide +kernel,
        isExecutable_iff.1 hcommand, List.forall_mem_cons.2 ⟨?_, List.forall_mem_singleton.2 ?_⟩⟩
    · rw [← isExecutable_iff, show root.candidate [] tool = ⟨"/tool".toList⟩ by decide +kernel,
        hdirectory]
      exact Bool.false_ne_true
    · rw [← isExecutable_iff,
        show root.candidate "/bin".toList tool = ⟨"/bin/tool".toList⟩ by decide +kernel, hplain]
      exact Bool.false_ne_true
  refine ⟨hname, hsearch, hfound, (happend _ _).2 _ hfound, ?_, hunset⟩
  refine Option.eq_none_iff_forall_ne_some.2 fun found hsome => ?_
  obtain ⟨-, rfl, hrunnable⟩ := (hempty found).1 hsome
  rw [← isExecutable_iff, show root.join (.ofText tool) = ⟨"/tool".toList⟩ by decide +kernel,
    hdirectory] at hrunnable
  exact Bool.false_ne_true hrunnable

end FileSystem
end LineShell
