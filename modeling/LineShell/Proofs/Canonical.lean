import LineShell.Proofs.Paths
import Mathlib.Data.List.Infix

/-!
The path of a directory without links or dots on the way. It leads to that directory again, from
wherever one starts, so looking for such a path a second time changes nothing.
-/
namespace LineShell

namespace Path

def IsName (name : Text) : Prop := '/' ∉ name ∧ '\x00' ∉ name

theorem isName_of_mem_names {p : Path} (hp : '\x00' ∉ p.octets) {name : Text}
    (h : name ∈ p.names) : IsName name := by
  refine ⟨fun hm => by simpa using not_of_mem_splitWhere h _ hm, fun hm => hp ?_⟩
  have hflat : '\x00' ∈ p.names.flatten := List.mem_flatten.2 ⟨name, h, hm⟩
  rw [names, flatten_splitWhere] at hflat
  exact List.mem_of_mem_filter hflat

theorem splitWhere_flatMap {names : List Text} (h : ∀ name ∈ names, '/' ∉ name) {front : Text}
    (hfront : '/' ∉ front) :
    splitWhere (· == '/') (front ++ names.flatMap ('/' :: ·)) = front :: names := by
  have hwhole {name : Text} (hname : '/' ∉ name) : splitWhere (· == '/') name = [name] :=
    splitWhere_of_forall fun c hc => by
      rw [beq_eq_false_iff_ne]
      rintro rfl
      exact hname hc
  induction names generalizing front with
  | nil => rw [List.flatMap_nil, List.append_nil, hwhole hfront]
  | cons name names ih =>
    obtain ⟨hname, hnames⟩ := List.forall_mem_cons.1 h
    rw [List.flatMap_cons, List.cons_append, splitWhere_append_cons rfl, hwhole hfront,
      ih hnames hname, List.singleton_append]

variable {here : List Text} (h : ∀ name ∈ here, IsName name)
include h

theorem names_ofNames (hne : here ≠ []) : (ofNames here).names = [] :: here := by
  have hoctets : (ofNames here).octets = [] ++ here.flatMap ('/' :: ·) := by
    cases here with
    | nil => exact absurd rfl hne
    | cons => rfl
  rw [names, hoctets]
  exact splitWhere_flatMap (fun name hname => (h name hname).1) (List.not_mem_nil)

theorem not_nul_mem_ofNames : '\x00' ∉ (ofNames here).octets := by
  cases here with
  | nil => decide
  | cons name names =>
    intro hm
    obtain ⟨inside, hinside, hc⟩ := List.mem_flatMap.1 hm
    rcases List.mem_cons.1 hc with hslash | hc
    · exact absurd hslash (by decide)
    · exact (h inside hinside).2 hc

end Path

theorem Node.at?_append (node : Node) (front rest : Location) :
    node.at? (front ++ rest) = (node.at? front).bind (·.at? rest) := by
  induction front generalizing node with
  | nil => simp
  | cons name front ih =>
    cases node with
    | directory id children =>
      rw [List.cons_append, at?_directory, at?_directory]
      cases children.lookup name with
      | none => rfl
      | some child => exact ih child
    | _ => rfl

/-- What is around a directory is a directory. -/
theorem Node.exists_directory_of_append {node inner : Node} {front rest : Location}
    (h : node.at? (front ++ rest) = some inner) (hinner : inner.isDirectory) :
    ∃ id children, node.at? front = some (.directory id children) := by
  rw [at?_append] at h
  obtain ⟨outer, houter, hrest⟩ := Option.bind_eq_some_iff.1 h
  rw [houter]
  cases rest with
  | nil =>
    obtain rfl : outer = inner := by simpa using hrest
    obtain ⟨id, children, rfl⟩ := exists_directory_of_isDirectory hinner
    exact ⟨id, children, rfl⟩
  | cons name rest =>
    obtain ⟨id, children, rfl⟩ := exists_directory_of_at? hrest
    exact ⟨id, children, rfl⟩

theorem Location.isAbsolute_path (here : Location) : here.path.isAbsolute := by cases here <;> rfl

theorem Location.parent_prefix (here : Location) : here.parent <+: here := by
  unfold parent
  split
  · exact (List.dropLast_prefix _).trans (List.dropLast_prefix _)
  · exact List.dropLast_prefix _

namespace FileSystem

variable {fs : FileSystem}

/-- A name is looked up at a location, and the path to it is short enough. -/
structure Reaches (fs : FileSystem) (front : Location) (name : Text) : Prop where
  proper : name ≠ [] ∧ name ≠ ['.'] ∧ name ≠ ['.', '.']
  isName : Path.IsName name
  short : name.length ≤ nameLimit
  shortPath : (Path.ofNames (front ++ [name])).octets.length < pathLimit
  searchable : (fs.node? front).any fs.mayExecute

/-- Each name of a location is looked up behind those in front of it. -/
def Reachable (fs : FileSystem) (here : Location) : Prop :=
  ∀ front name, front ++ [name] <+: here → fs.Reaches front name

namespace Reachable

variable {here : Location}

theorem nil : fs.Reachable [] := fun front name h => by simp at h

theorem of_prefix {front : Location} (h : fs.Reachable here) (hp : front <+: here) :
    fs.Reachable front := fun before name hbefore => h before name (hbefore.trans hp)

theorem concat {name : Text} (h : fs.Reachable here) (hname : fs.Reaches here name) :
    fs.Reachable (here ++ [name]) := by
  intro front last hp
  rcases List.prefix_concat_iff.1 hp with he | hp
  · obtain ⟨rfl, hlast⟩ := List.append_inj' he rfl
    obtain rfl := List.singleton_inj.1 hlast
    exact hname
  · exact h front last hp

theorem isName (h : fs.Reachable here) : ∀ name ∈ here, Path.IsName name := by
  intro name hname
  obtain ⟨front, rest, rfl⟩ := List.mem_iff_append.1 hname
  have hp : front ++ [name] <+: front ++ name :: rest := ⟨rest, by simp⟩
  exact (h front name hp).isName

theorem isGone_eq_false (h : fs.Reachable here) : here.isGone = false := by
  rcases List.eq_nil_or_concat here with rfl | ⟨front, name, rfl⟩
  · rfl
  · have hname : name ≠ [] := (h front name (by simp)).proper.1
    simpa [Location.isGone] using hname

/-- From a location to one inside of it, all names on the way are looked up, and none is a link. -/
theorem trace_eq {front rest : Location} (h : fs.Reachable (front ++ rest)) {node : Node}
    (hat : fs.root.at? (front ++ rest) = some node) (hdir : node.isDirectory) (links : Nat) :
    fs.trace links front rest = .ok (front ++ rest) := by
  induction rest generalizing front with
  | nil => rw [trace, List.append_nil]
  | cons name rest ih =>
    have hassoc : front ++ name :: rest = front ++ [name] ++ rest := by simp
    rw [hassoc] at h hat ⊢
    obtain ⟨⟨hne, hdot, hdots⟩, -, hshort, hpath, hsearch⟩ := h front name (List.prefix_append _ _)
    -- On the way to a directory there are only directories, so no link is followed here.
    obtain ⟨id, children, hstands⟩ := Node.exists_directory_of_append hat hdir
    rewrite [trace, if_neg (by simp [hne, hdot]), if_neg hdots, if_neg (by omega),
      if_neg (by simp [hsearch]), hstands]
    simpa [Node.isDirectory] using ih h hat

end Reachable

/-- No link has a NUL in its target, where its text would end. -/
def PlainLinks (fs : FileSystem) : Prop :=
  ∀ here target, fs.root.at? here = some (.link target) → '\x00' ∉ target.octets

theorem reachable_of_trace (hlinks : fs.PlainLinks) {links : Nat} {here there : Location}
    {names : List Text} (hhere : fs.Reachable here) (hnames : ∀ name ∈ names, Path.IsName name)
    (h : fs.trace links here names = .ok there) : fs.Reachable there := by
  -- Names come from the path and from targets of links; a location only grows by one of them.
  fun_induction fs.trace links here names with
  | case1 links here =>
    obtain rfl := Except.ok.inj h
    exact hhere
  | case2 links here name rest _ ih => exact ih hhere (List.forall_mem_cons.1 hnames).2 h
  | case3 links here rest _ ih =>
    exact ih (hhere.of_prefix here.parent_prefix) (List.forall_mem_cons.1 hnames).2 h
  | case8 here name rest _ _ there' _ _ target hat links ih =>
    have htarget : ∀ name ∈ target.names, Path.IsName name :=
      fun name => Path.isName_of_mem_names (hlinks _ target hat)
    refine ih ?_ (List.forall_mem_append.2 ⟨htarget, (List.forall_mem_cons.1 hnames).2⟩) h
    split
    · exact .nil
    · exact hhere
  | case10 links here name rest hblank hdots there' hlong hsearch node _ _ _ ih =>
    obtain ⟨hname, hrest⟩ := List.forall_mem_cons.1 hnames
    obtain ⟨hne, hdot⟩ := not_or.1 hblank
    obtain ⟨hshort, hpath⟩ := not_or.1 hlong
    have hreaches : fs.Reaches here name :=
      ⟨⟨hne, hdot, hdots⟩, hname, not_lt.1 hshort, not_le.1 hpath, by simpa using hsearch⟩
    exact ih (hhere.concat hreaches) hrest h
  | _ => simp at h

theorem present_and_isDirectory_iff {here : Location} :
    (!here.isGone && (fs.node? here).any Node.isDirectory) ↔
      here.isGone = false ∧ ∃ id children, fs.root.at? here = some (.directory id children) := by
  rw [Bool.and_eq_true_iff, Bool.not_eq_true', Option.any_eq_true]
  refine and_congr_right fun hpresent => ?_
  rw [node?, if_neg (by simp [hpresent])]
  constructor
  · rintro ⟨node, hat, hnode⟩
    obtain ⟨id, children, rfl⟩ := Node.exists_directory_of_isDirectory hnode
    exact ⟨id, children, hat⟩
  · rintro ⟨id, children, hat⟩
    exact ⟨_, hat, rfl⟩

theorem canonical?_eq_some_iff {base here : Location} {p : Path} :
    fs.canonical? base p = some here ↔
      p.octets ≠ [] ∧ '\x00' ∉ p.octets ∧
        fs.trace linkLimit (if p.isAbsolute then [] else base) p.names = .ok here ∧
        here.isGone = false ∧ ∃ id children, fs.root.at? here = some (.directory id children) := by
  unfold canonical?
  by_cases hpath : p.octets = [] ∨ p.octets.contains '\x00'
  · rw [if_pos hpath]
    rcases hpath with hempty | hnul
    · simp [hempty]
    · simp [List.contains_iff_mem.1 hnul]
  · obtain ⟨hne, hnul⟩ := not_or.1 hpath
    rw [List.contains_iff_mem] at hnul
    rw [if_neg hpath]
    generalize fs.trace linkLimit _ p.names = result
    cases result with
    | error => simp
    | ok there =>
      by_cases hthere : !there.isGone && (fs.node? there).any Node.isDirectory
      · simp only [hthere, if_true]
        constructor
        · rintro ⟨⟩
          exact ⟨hne, hnul, rfl, present_and_isDirectory_iff.1 hthere⟩
        · rintro ⟨-, -, ⟨⟩, -⟩
          rfl
      · simp only [hthere]
        constructor
        · simp
        · rintro ⟨-, -, ⟨⟩, hhere⟩
          exact absurd (present_and_isDirectory_iff.2 hhere) hthere

theorem canonical?_of_isAbsolute {p : Path} (h : p.isAbsolute) (base : Location) :
    fs.canonical? base p = fs.canonical? [] p := by
  rw [canonical?, canonical?, if_pos h, if_pos h]

/-- The path of a directory leads to it, if the names on the way can be looked up. -/
theorem Reachable.canonical?_path {here : Location} (h : fs.Reachable here) {id : FileId}
    {children : List (Text × Node)} (hat : fs.root.at? here = some (.directory id children)) :
    fs.canonical? [] here.path = some here := by
  have hne : here.path.octets ≠ [] := fun hempty => by
    simpa [Path.isAbsolute, hempty] using here.isAbsolute_path
  have htrace : fs.trace linkLimit [] here.path.names = .ok here := by
    by_cases hroot : here = []
    · subst hroot
      simp [Location.path, Path.ofNames, Path.names, splitWhere_cons, trace]
    · have hinside : fs.Reachable ([] ++ here) := h
      rw [Location.path, Path.names_ofNames h.isName hroot, trace, if_pos (.inl rfl)]
      exact hinside.trace_eq hat rfl linkLimit
  refine canonical?_eq_some_iff.2
    ⟨hne, Path.not_nul_mem_ofNames h.isName, ?_, h.isGone_eq_false, id, children, hat⟩
  rw [ite_self, htrace]

/-- A path that is what its directory is found with. -/
def IsCanonical (fs : FileSystem) (p : Path) : Prop :=
  ∃ here, fs.canonical? [] p = some here ∧ here.path = p

/-- The path that a directory is found with leads to it. -/
def Idempotent (fs : FileSystem) : Prop :=
  ∀ p here, fs.canonical? [] p = some here → fs.canonical? [] here.path = some here

theorem idempotent (hlinks : fs.PlainLinks) : fs.Idempotent := by
  intro p here h
  obtain ⟨-, hnul, htrace, -, id, children, hat⟩ := canonical?_eq_some_iff.1 h
  rw [ite_self] at htrace
  have hnames : ∀ name ∈ p.names, Path.IsName name := fun _ => Path.isName_of_mem_names hnul
  exact (reachable_of_trace hlinks .nil hnames htrace).canonical?_path hat

def paired : FileSystem where
  root := .directory 0 [(['a'], .directory 0 []), (['b'], .directory 0 [])]

theorem idempotent_paired : paired.Idempotent := by
  refine idempotent fun here target hat => ?_
  rcases here with _ | ⟨name, _ | ⟨inner, rest⟩⟩
  · simp [paired] at hat
  all_goals
    simp only [paired, Node.at?_directory, Node.lookup_cons] at hat
    split_ifs at hat <;> simp at hat

theorem canonical?_paired :
    paired.canonical? [] ⟨"/b".toList⟩ = some [['b']] ∧
      paired.canonical? [] ⟨"/b/../a".toList⟩ = some [['a']] := by
  constructor
  all_goals
    simp [canonical?, trace, Path.isAbsolute, Path.names, splitWhere_cons, Path.ofNames, nameLimit,
      pathLimit, node?, Location.isGone, Location.parent, paired, mayExecute, allows, mode, inode,
      Node.lookup_cons, Node.isDirectory]

end FileSystem
end LineShell
