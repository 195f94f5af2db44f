import LineShell.Host.FileSystem

/-!
What paths lead to once something has been put where nothing stood: every path that led somewhere
before still leads there, and a path to the vacant place leads to what is there now.
-/
namespace LineShell

namespace Node

@[simp] theorem at?_nil (node : Node) : node.at? [] = some node := by cases node <;> rfl

@[simp] theorem at?_directory (id : FileId) (children : List (Text × Node)) (name : Text)
    (rest : Location) :
    (directory id children).at? (name :: rest) = (children.lookup name).bind (·.at? rest) := by
  rw [at?]
  cases children.lookup name <;> rfl

/-- Only a directory has something inside. -/
theorem exists_directory_of_at? {node inner : Node} {name : Text} {rest : Location}
    (h : node.at? (name :: rest) = some inner) : ∃ id children, node = .directory id children := by
  cases node with
  | directory id children => exact ⟨id, children, rfl⟩
  | _ => simp [at?] at h

theorem exists_directory_of_isDirectory {node : Node} (h : node.isDirectory) :
    ∃ id children, node = .directory id children := by
  cases node with
  | directory id children => exact ⟨id, children, rfl⟩
  | _ => simp [isDirectory] at h

theorem lookup_cons (key : Text) (child : Node) (rest : List (Text × Node)) (name : Text) :
    ((key, child) :: rest).lookup name = if name = key then some child else rest.lookup name := by
  rw [List.lookup_cons]
  by_cases h : name = key
  · simp [h]
  · simp [h, beq_false_of_ne h]

theorem lookup_alterChild {change : Option Node → Option Node}
    (hchange : ∀ child, (change (some child)).isSome) (name other : Text)
    (children : List (Text × Node)) :
    (alterChild name change children).lookup other =
      if other = name then change (children.lookup name) else children.lookup other := by
  induction children with
  | nil =>
    cases hc : change none with
    | none => simp [alterChild, hc]
    | some new => simp [alterChild, hc, lookup_cons]
  | cons pair rest ih =>
    obtain ⟨key, child⟩ := pair
    by_cases hk : key = name
    · obtain ⟨new, hnew⟩ := Option.isSome_iff_exists.1 (hchange child)
      by_cases ho : other = name <;> simp [alterChild, lookup_cons, hk, hnew, ho]
    · by_cases ho : other = name
      · simpa [alterChild, lookup_cons, hk, ho, Ne.symm hk] using ih
      · simp [alterChild, lookup_cons, hk, ho, ih]

/-- Both are the same, or directories of one inode. -/
inductive Alike : Node → Node → Prop
  | same (node : Node) : Alike node node
  | directories (id : FileId) (before after : List (Text × Node)) :
      Alike (.directory id before) (.directory id after)

theorem Alike.trans {a b c : Node} (hab : a.Alike b) (hbc : b.Alike c) : a.Alike c := by
  cases hab with
  | same => exact hbc
  | directories id before after =>
    cases hbc with
    | same => exact .directories id before after
    | directories _ _ last => exact .directories id before last

/-! ### Putting a node at a location -/

theorem alter_of_isDirectory_false {node : Node} (h : node.isDirectory = false)
    (change : Option Node → Option Node) (location : Location) :
    node.alter change location = node := by
  cases node with
  | directory => simp [isDirectory] at h
  | _ => rcases location with _ | ⟨_, _ | _⟩ <;> rfl

/-- What becomes of a child on the way to the location. -/
def putUnder (new : Node) : Location → Option Node → Option Node
  | [], _ => some new
  | rest, child => child.map (alter (fun _ => some new) rest)

theorem alter_directory (new : Node) (id : FileId) (children : List (Text × Node)) (name : Text)
    (rest : Location) :
    alter (fun _ => some new) (name :: rest) (.directory id children) =
      .directory id (alterChild name (putUnder new rest) children) := by
  cases rest <;> rfl

theorem lookup_alterChild_putUnder (new : Node) (rest : Location) (name other : Text)
    (children : List (Text × Node)) :
    (alterChild name (putUnder new rest) children).lookup other =
      if other = name then putUnder new rest (children.lookup name) else children.lookup other :=
  lookup_alterChild (fun _ => by cases rest <;> rfl) name other children

/-- What stood anywhere still stands there after something was put where nothing stood. -/
theorem exists_alike_at?_alter {location : Location} {root : Node}
    (hfree : root.at? location = none) (new : Node) {here : Location} {node : Node}
    (h : root.at? here = some node) :
    ∃ node', (root.alter (fun _ => some new) location).at? here = some node' ∧
      node.Alike node' := by
  induction location generalizing root here with
  | nil => simp at hfree
  | cons name rest ih =>
    cases root with
    | directory id children =>
      rw [alter_directory]
      cases here with
      | nil =>
        obtain rfl := by simpa using h
        exact ⟨_, at?_nil _, .directories id children _⟩
      | cons key below =>
        rw [at?_directory] at h hfree
        rw [at?_directory, lookup_alterChild_putUnder]
        by_cases hk : key = name
        · subst hk
          obtain ⟨child, hchild, hbelow⟩ := Option.bind_eq_some_iff.1 h
          rw [hchild, Option.bind_some] at hfree
          -- Something stands at this child itself, so the free place is further in.
          have hrest : rest ≠ [] := by
            rintro rfl
            simp at hfree
          obtain ⟨node', hat, halike⟩ := ih hfree hbelow
          refine ⟨node', ?_, halike⟩
          cases rest with
          | nil => exact absurd rfl hrest
          | cons => simpa [hchild, putUnder] using hat
        · exact ⟨node, by rw [if_neg hk]; exact h, .same node⟩
    | _ =>
      rw [alter_of_isDirectory_false rfl]
      exact ⟨node, h, .same node⟩

theorem at?_alter_self {here : Location} {root : Node} {id : FileId} {children : List (Text × Node)}
    (h : root.at? here = some (.directory id children)) (name : Text) (new : Node) :
    (root.alter (fun _ => some new) (here ++ [name])).at? (here ++ [name]) = some new := by
  induction here generalizing root with
  | nil =>
    obtain rfl := by simpa using h
    rw [List.nil_append, alter_directory, at?_directory, lookup_alterChild_putUnder]
    simp [putUnder]
  | cons key below ih =>
    obtain ⟨id, inside, rfl⟩ := exists_directory_of_at? h
    rw [at?_directory] at h
    obtain ⟨child, hchild, hbelow⟩ := Option.bind_eq_some_iff.1 h
    rw [List.cons_append, alter_directory, at?_directory, lookup_alterChild_putUnder, if_pos rfl,
      hchild]
    have hput : putUnder new (below ++ [name]) (some child) =
        some (child.alter (fun _ => some new) (below ++ [name])) := by
      cases below <;> rfl
    rw [hput]
    exact ih hbelow

/-- Below another name of the root nothing changes. -/
theorem at?_alter_of_head?_ne {location : Location} {name : Text} (h : location.head? ≠ some name)
    (root new : Node) (rest : Location) :
    (root.alter (fun _ => some new) location).at? (name :: rest) = root.at? (name :: rest) := by
  cases location with
  | nil => cases root <;> rfl
  | cons key below =>
    cases root with
    | directory id children =>
      have hne : name ≠ key := fun he => h (he ▸ rfl)
      rw [alter_directory, at?_directory, at?_directory, lookup_alterChild_putUnder, if_neg hne]
    | _ => rw [alter_of_isDirectory_false rfl]

instance decidableEqFile (node : Node) (id : FileId) : Decidable (node = .file id) :=
  match node with
  | .file other => decidable_of_iff (other = id) ⟨congrArg _, file.inj⟩
  | .directory .. | .link _ | .device _ | .pipe .. | .made _ | .handle .. => isFalse nofun

end Node

namespace FileSystem

variable {fs : FileSystem} {last : Last} {links : Nat} {here : Location} {names : List Text}
  {resolved : Resolved}

/-! ### Where a path leads can be computed -/

instance decidableEqOpened (found : Except IoError (Location × Node)) (there : Location)
    (id : FileId) : Decidable (found = .ok (there, .file id)) :=
  match found with
  | .error _ => isFalse nofun
  | .ok (location, node) => decidable_of_iff (location = there ∧ node = .file id) (by simp)

instance decidableEqVacant (found : Except IoError Resolved) (there : Location) :
    Decidable (found = .ok (.vacant there)) :=
  match found with
  | .error _ | .ok (.found ..) => isFalse nofun
  | .ok (.vacant location) => decidable_of_iff (location = there) (by simp)

/-! ### What a walk does -/

/-- Whether a name is looked up at a location, with these names behind it. -/
structure LooksUp (fs : FileSystem) (last : Last) (here : Location) (name : Text)
    (rest : List Text) : Prop where
  proper : name ≠ [] ∧ name ≠ ['.'] ∧ name ≠ ['.', '.']
  searchable : (fs.node? here).any fs.mayExecute
  present : here.isGone = false
  noDirectoryMade : ¬ (last = .create ∧ rest ≠ [] ∧ rest.all (· == []))
  short : name.length ≤ nameLimit

theorem LooksUp.of_tests {name : Text} {rest : List Text} (hname : ¬ name = [])
    (hsearch : ¬ (!(fs.node? here).any fs.mayExecute) = true) (hdot : ¬ name = ['.'])
    (hdots : ¬ name = ['.', '.']) (hgone : ¬ here.isGone = true)
    (hmade : ¬ (last = .create ∧ rest ≠ [] ∧ rest.all (· == [])))
    (hlong : ¬ nameLimit < name.length) : fs.LooksUp last here name rest where
  proper := ⟨hname, hdot, hdots⟩
  searchable := by simpa using hsearch
  present := by simpa using hgone
  noDirectoryMade := hmade
  short := by omega

/-- The walks that lead somewhere, name by name. -/
inductive Walks (fs : FileSystem) (last : Last) : Nat → Location → List Text → Resolved → Prop
  | arrived {links here node} (stands : fs.node? here = some node) :
      Walks fs last links here [] (.found here node)
  | blank {links here rest resolved} (walks : Walks fs last links here rest resolved) :
      Walks fs last links here ([] :: rest) resolved
  | stay {links here rest resolved} (searchable : (fs.node? here).any fs.mayExecute)
      (walks : Walks fs last links here rest resolved) :
      Walks fs last links here (['.'] :: rest) resolved
  | up {links here rest resolved} (searchable : (fs.node? here).any fs.mayExecute)
      (walks : Walks fs last links here.parent rest resolved) :
      Walks fs last links here (['.', '.'] :: rest) resolved
  | missing {links here name} (looksUp : fs.LooksUp last here name [])
      (free : fs.root.at? (here ++ [name]) = none) :
      Walks fs last links here [name] (.vacant (here ++ [name]))
  | down {links here name rest resolved id children} (looksUp : fs.LooksUp last here name rest)
      (stands : fs.root.at? (here ++ [name]) = some (.directory id children))
      (walks : Walks fs last links (here ++ [name]) rest resolved) :
      Walks fs last links here (name :: rest) resolved
  | through {links here name rest resolved target} (looksUp : fs.LooksUp last here name rest)
      (stands : fs.root.at? (here ++ [name]) = some (.link target))
      (followed : ¬ (rest = [] ∧ last = .keep))
      (walks : Walks fs last links (if target.isAbsolute then [] else here) (target.names ++ rest)
        resolved) :
      Walks fs last (links + 1) here (name :: rest) resolved
  | ended {links here name node} (looksUp : fs.LooksUp last here name [])
      (stands : fs.root.at? (here ++ [name]) = some node) (inner : node.isDirectory = false)
      (kept : ∀ target, node = .link target → last = .keep) :
      Walks fs last links here [name] (.found (here ++ [name]) node)

theorem walks_of_walkWith {follow : Location → List Text → Except Errno Resolved}
    (hfollow : ∀ here names, follow here names = .ok resolved →
      ∃ fewer, links = fewer + 1 ∧ fs.Walks last fewer here names resolved)
    (h : fs.walkWith last follow here names = .ok resolved) :
    fs.Walks last links here names resolved := by
  fun_induction fs.walkWith last follow here names with
  | case1 here node hnode =>
    obtain rfl := Except.ok.inj h
    exact .arrived hnode
  | case3 here rest ih => exact .blank (ih h)
  | case5 here rest hsearch _ ih => exact .stay (by simpa using hsearch) (ih h)
  | case6 here rest hsearch _ _ ih => exact .up (by simpa using hsearch) (ih h)
  | case10 here name hname hsearch hdot hdots hgone hlong there hnone hmade =>
    obtain rfl := Except.ok.inj h
    exact .missing (.of_tests hname hsearch hdot hdots hgone hmade hlong) hnone
  | case12 here name rest hname hsearch hdot hdots hgone hmade hlong there id children hat ih =>
    exact .down (.of_tests hname hsearch hdot hdots hgone hmade hlong) hat (ih h)
  | case13 here name rest hname hsearch hdot hdots hgone hmade hlong there target hat hkeep =>
    obtain ⟨rfl, hkeep⟩ := hkeep
    obtain rfl := Except.ok.inj h
    exact .ended (.of_tests hname hsearch hdot hdots hgone hmade hlong) hat rfl fun _ _ => hkeep
  | case14 here name rest hname hsearch hdot hdots hgone hmade hlong there target hat hkeep =>
    obtain ⟨fewer, rfl, hwalks⟩ := hfollow _ _ h
    exact .through (.of_tests hname hsearch hdot hdots hgone hmade hlong) hat hkeep hwalks
  | case15 here name hname hsearch hdot hdots hgone hlong there node hdir hlink hat hmade =>
    obtain rfl := Except.ok.inj h
    refine .ended (.of_tests hname hsearch hdot hdots hgone hmade hlong) hat ?_ fun _ he =>
      (hlink _ he).elim
    cases node with
    | directory id children => exact (hdir id children rfl).elim
    | _ => rfl
  | _ => simp at h

theorem walks_of_walk (h : fs.walk last links here names = .ok resolved) :
    fs.Walks last links here names resolved := by
  induction links generalizing here names with
  | zero =>
    rw [walk] at h
    exact walks_of_walkWith (fun _ _ hwalk => by simp at hwalk) h
  | succ fewer ih =>
    rw [walk] at h
    exact walks_of_walkWith (fun _ _ hwalk => ⟨fewer, rfl, ih hwalk⟩) h

@[simp] theorem walk_nil :
    fs.walk last links here [] =
      match fs.node? here with
      | some node => .ok (.found here node)
      | none => .error .noEntry := by
  cases links <;> rfl

@[simp] theorem walk_blank (rest : List Text) :
    fs.walk last links here ([] :: rest) = fs.walk last links here rest := by
  cases links <;> rfl

theorem walk_dot (h : (fs.node? here).any fs.mayExecute) (rest : List Text) :
    fs.walk last links here (['.'] :: rest) = fs.walk last links here rest := by
  cases links <;> simp [walk, walkWith, h]

theorem walk_dots (h : (fs.node? here).any fs.mayExecute) (rest : List Text) :
    fs.walk last links here (['.', '.'] :: rest) = fs.walk last links here.parent rest := by
  cases links <;> simp [walk, walkWith, h]

theorem LooksUp.walk_eq {name : Text} {rest : List Text} (h : fs.LooksUp last here name rest)
    (links : Nat) :
    fs.walk last links here (name :: rest) =
      match fs.root.at? (here ++ [name]) with
      | none => if rest = [] then .ok (.vacant (here ++ [name])) else .error .noEntry
      | some (.directory ..) => fs.walk last links (here ++ [name]) rest
      | some (.link target) =>
        if rest = [] ∧ last = .keep then .ok (.found (here ++ [name]) (.link target))
        else
          match links with
          | 0 => .error .tooManyLinks
          | links + 1 =>
            fs.walk last links (if target.isAbsolute then [] else here) (target.names ++ rest)
      | some node =>
        if rest = [] then .ok (.found (here ++ [name]) node) else .error .notDirectory := by
  obtain ⟨⟨hname, hdot, hdots⟩, hsearch, hpresent, hmade, hshort⟩ := h
  cases links
  all_goals
    rewrite [walk, walkWith, if_neg hname, if_neg (by simpa using hsearch), if_neg hdot,
      if_neg hdots, if_neg (by simp [hpresent]), if_neg hmade, if_neg (by omega)]
    rfl

theorem walk_of_walks (h : fs.Walks last links here names resolved) :
    fs.walk last links here names = .ok resolved := by
  induction h with
  | arrived stands => simp [stands]
  | blank _ ih => simpa using ih
  | stay searchable _ ih => rwa [walk_dot searchable]
  | up searchable _ ih => rwa [walk_dots searchable]
  | missing looksUp free => simp [looksUp.walk_eq, free]
  | down looksUp stands _ ih => simpa [looksUp.walk_eq, stands] using ih
  | through looksUp stands followed _ ih => simpa [looksUp.walk_eq, stands, followed] using ih
  | @ended links here name node looksUp stands inner kept =>
    cases node with
    | directory => simp [Node.isDirectory] at inner
    | link target =>
      rw [looksUp.walk_eq, stands]
      simp [kept target rfl]
    | _ => simp [looksUp.walk_eq, stands]

theorem walk_eq_ok_iff :
    fs.walk last links here names = .ok resolved ↔ fs.Walks last links here names resolved :=
  ⟨walks_of_walk, walk_of_walks⟩

/-- Where a file could be made or written to, the same file is found. -/
theorem Walks.follow (h : fs.Walks .create links here names resolved) :
    fs.Walks .follow links here names resolved := by
  have hlooksUp {here : Location} {name : Text} {rest : List Text}
      (h : fs.LooksUp .create here name rest) : fs.LooksUp .follow here name rest :=
    { h with noDirectoryMade := by simp }
  induction h with
  | arrived stands => exact .arrived stands
  | blank _ ih => exact .blank ih
  | stay searchable _ ih => exact .stay searchable ih
  | up searchable _ ih => exact .up searchable ih
  | missing looksUp free => exact .missing (hlooksUp looksUp) free
  | down looksUp stands _ ih => exact .down (hlooksUp looksUp) stands ih
  | through looksUp stands _ _ ih => exact .through (hlooksUp looksUp) stands (by simp) ih
  | ended looksUp stands inner kept =>
    exact .ended (hlooksUp looksUp) stands inner fun target he => absurd (kept target he) (by simp)

theorem Walks.vacant {location : Location} (h : fs.Walks last links here names (.vacant location)) :
    ∃ there name, location = there ++ [name] ∧ fs.root.at? (there ++ [name]) = none := by
  generalize hr : Resolved.vacant location = resolved at h
  induction h with
  | arrived => simp at hr
  | blank _ ih => exact ih hr
  | stay _ _ ih => exact ih hr
  | up _ _ ih => exact ih hr
  | missing _ free => exact ⟨_, _, Resolved.vacant.inj hr, free⟩
  | down _ _ _ ih => exact ih hr
  | through _ _ _ _ ih => exact ih hr
  | ended => simp at hr

/-! ### Walks in files to which something was added -/

/-- Everything is still where it was, and may be searched as before. -/
structure Extends (fs fs' : FileSystem) : Prop where
  stands {here : Location} {node : Node} : fs.root.at? here = some node →
    ∃ node', fs'.root.at? here = some node' ∧ node.Alike node'
  searchable (node : Node) : fs'.mayExecute node = fs.mayExecute node

namespace Extends

variable {fs' : FileSystem}

theorem trans {fs'' : FileSystem} (h : fs.Extends fs') (h' : fs'.Extends fs'') :
    fs.Extends fs'' where
  stands hat := by
    obtain ⟨node', hat', halike⟩ := h.stands hat
    obtain ⟨node'', hat'', halike'⟩ := h'.stands hat'
    exact ⟨node'', hat'', halike.trans halike'⟩
  searchable node := (h'.searchable node).trans (h.searchable node)

theorem of_root_eq (hroot : fs'.root = fs.root)
    (hsearch : ∀ node, fs'.mayExecute node = fs.mayExecute node) : fs.Extends fs' where
  stands {_ node} hat := ⟨node, hroot ▸ hat, .same node⟩
  searchable := hsearch

variable (h : fs.Extends fs')
include h

theorem node? {node : Node} (hnode : fs.node? here = some node) :
    ∃ node', fs'.node? here = some node' ∧ node.Alike node' := by
  unfold FileSystem.node? at hnode ⊢
  split at hnode
  next hgone =>
    rw [if_pos hgone]
    exact ⟨node, hnode, .same node⟩
  next hgone =>
    rw [if_neg hgone]
    exact h.stands hnode

theorem any_mayExecute (hsearch : (fs.node? here).any fs.mayExecute) :
    (fs'.node? here).any fs'.mayExecute := by
  obtain ⟨node, hnode, hmay⟩ := (Option.any_eq_true _ _).1 hsearch
  obtain ⟨node', hnode', halike⟩ := h.node? hnode
  have hsame : fs.mayExecute node' = fs.mayExecute node := by cases halike <;> rfl
  rw [hnode', Option.any_some, h.searchable, hsame, hmay]

theorem looksUp {name : Text} {rest : List Text} (hl : fs.LooksUp last here name rest) :
    fs'.LooksUp last here name rest :=
  { hl with searchable := h.any_mayExecute hl.searchable }

/-- A walk to a file, or to a place where a file is now, leads to that file. -/
theorem walks (hw : fs.Walks last links here names resolved) {location : Location} {id : FileId}
    (hfile : resolved = .found location (.file id) ∨
      resolved = .vacant location ∧ fs'.root.at? location = some (.file id)) :
    fs'.Walks last links here names (.found location (.file id)) := by
  induction hw with
  | @arrived links here node stands =>
    obtain ⟨rfl, rfl⟩ := by simpa using hfile
    obtain ⟨node', hnode', halike⟩ := h.node? stands
    cases halike
    exact .arrived hnode'
  | blank _ ih => exact .blank (ih hfile)
  | stay searchable _ ih => exact .stay (h.any_mayExecute searchable) (ih hfile)
  | up searchable _ ih => exact .up (h.any_mayExecute searchable) (ih hfile)
  | missing looksUp free =>
    obtain ⟨rfl, hat⟩ := by simpa using hfile
    exact .ended (h.looksUp looksUp) hat rfl (by simp)
  | down looksUp stands _ ih =>
    obtain ⟨node', hat, halike⟩ := h.stands stands
    cases halike with
    | same => exact .down (h.looksUp looksUp) hat (ih hfile)
    | directories => exact .down (h.looksUp looksUp) hat (ih hfile)
  | through looksUp stands followed _ ih =>
    obtain ⟨node', hat, halike⟩ := h.stands stands
    cases halike
    exact .through (h.looksUp looksUp) hat followed (ih hfile)
  | ended looksUp stands inner kept =>
    obtain ⟨rfl, rfl⟩ := by simpa using hfile
    obtain ⟨node', hat, halike⟩ := h.stands stands
    cases halike
    exact .ended (h.looksUp looksUp) hat rfl (by simp)

end Extends

end FileSystem
end LineShell
