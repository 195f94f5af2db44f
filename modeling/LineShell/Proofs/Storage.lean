import LineShell.Host.Basic
import LineShell.Proofs.Paths

/-!
Writing a whole file and reading it again, among the files as they are and among those that the
shell finds, where the process files are made anew every time.
-/
namespace LineShell

namespace FileSystem

variable {fs fs' : FileSystem} {base : Location} {p : Path}

/-! ### Inodes -/

theorem inode_modifyInode (fs : FileSystem) (id other : FileId) (f : Inode → Inode) :
    (fs.modifyInode id f).inode other =
      if id = other ∧ id < fs.inodes.size then f (fs.inode id) else fs.inode other := by
  unfold modifyInode inode
  rw [Array.getElem?_modify]
  by_cases h : id = other
  · subst h
    by_cases hu : id < fs.inodes.size
    · simp [hu]
    · simp [hu]
  · simp [h]

theorem mode_eq_of_inode (h : ∀ id, (fs'.inode id).mode = (fs.inode id).mode) (node : Node) :
    fs'.mode node = fs.mode node := by
  cases node with
  | file id => exact h id
  | directory id children => exact h id
  | pipe id stream => exact h id
  | _ => rfl

theorem mode_modifyInode (fs : FileSystem) (id : FileId) {f : Inode → Inode}
    (hf : ∀ inode, (f inode).mode = inode.mode) (node : Node) :
    (fs.modifyInode id f).mode node = fs.mode node := by
  refine mode_eq_of_inode (fun other => ?_) node
  rw [inode_modifyInode]
  split
  next h => rw [hf, h.1]
  · rfl

theorem mode_setContent (fs : FileSystem) (id : FileId) (content : Bytes) (node : Node) :
    (fs.setContent id content).mode node = fs.mode node := by
  rw [setContent, mode_modifyInode]
  exact fun _ => rfl

theorem content_setContent {id : FileId} (h : id < fs.inodes.size) (content : Bytes) :
    ((fs.setContent id content).inode id).content = content := by
  rw [setContent, inode_modifyInode, if_pos ⟨rfl, h⟩]

/-! ### Additions -/

theorem extends_modifyInode (fs : FileSystem) (id : FileId) {f : Inode → Inode}
    (hf : ∀ inode, (f inode).mode = inode.mode) : fs.Extends (fs.modifyInode id f) := by
  refine .of_root_eq rfl fun node => ?_
  rw [mayExecute, allows, fs.mode_modifyInode id hf]
  rfl

theorem extends_setContent (fs : FileSystem) (id : FileId) (content : Bytes) :
    fs.Extends (fs.setContent id content) := fs.extends_modifyInode id fun _ => rfl

theorem touchDirectory_eq (fs : FileSystem) (location : Location) :
    fs.touchDirectory location = fs ∨
      ∃ id, fs.touchDirectory location = fs.modifyInode id ({ · with modified := fs.now }) := by
  unfold touchDirectory
  split
  · exact .inr ⟨_, rfl⟩
  · exact .inl rfl

theorem extends_touchDirectory (fs : FileSystem) (location : Location) :
    fs.Extends (fs.touchDirectory location) := by
  rcases fs.touchDirectory_eq location with h | ⟨id, h⟩
  · rw [h]
    exact .of_root_eq rfl fun _ => rfl
  · rw [h]
    exact fs.extends_modifyInode id fun _ => rfl

theorem inode_addInode (fs : FileSystem) (mode : Nat) (content : Bytes) (id : FileId) :
    (fs.addInode mode content).2.inode id =
      if id = fs.inodes.size then { mode, content, modified := fs.now } else fs.inode id := by
  unfold addInode inode
  rw [Array.getElem?_push]
  split <;> rfl

/-- A number that is not used cannot be searched either. -/
theorem extends_addInode (fs : FileSystem) {mode : Nat} (hmode : mode &&& 0o100 = 0)
    (content : Bytes) : fs.Extends (fs.addInode mode content).2 := by
  have hinode (id : FileId) :
      ((fs.addInode mode content).2.inode id).mode &&& 0o100 = (fs.inode id).mode &&& 0o100 := by
    rw [inode_addInode]
    split
    next h =>
      rw [h, hmode, inode, Array.getElem?_size]
      rfl
    · rfl
  refine .of_root_eq rfl fun node => ?_
  unfold mayExecute allows FileSystem.mode
  cases node with
  | file id => rw [hinode]
  | directory id children => rw [hinode]
  | pipe id stream => rw [hinode]
  | _ => rfl

theorem extends_put {location : Location} (hfree : fs.root.at? location = none) (node : Node) :
    fs.Extends (fs.put location node) := by
  refine Extends.trans ⟨fun hat => ?_, fun _ => ?_⟩ (extends_touchDirectory _ _)
  · exact Node.exists_alike_at?_alter hfree node hat
  · rfl

theorem extends_putFile {location : Location} (hfree : fs.root.at? location = none) {mode : Nat}
    (hmode : mode &&& 0o100 = 0) (content : Bytes) :
    fs.Extends (fs.putFile location mode content).2 := by
  have hadded : (fs.addInode mode content).2.root.at? location = none := hfree
  exact (fs.extends_addInode hmode content).trans (extends_put hadded _)

theorem root_put (fs : FileSystem) (location : Location) (node : Node) :
    (fs.put location node).root = fs.root.alter (fun _ => some node) location := by
  unfold put
  rcases touchDirectory_eq _ _ with h | ⟨id, h⟩
  · rw [h]
  · rw [h]
    rfl

theorem mode_touchDirectory (fs : FileSystem) (location : Location) (node : Node) :
    (fs.touchDirectory location).mode node = fs.mode node := by
  rcases fs.touchDirectory_eq location with h | ⟨id, h⟩
  · rw [h]
  · rw [h, mode_modifyInode]
    exact fun _ => rfl

theorem size_touchDirectory (fs : FileSystem) (location : Location) :
    (fs.touchDirectory location).inodes.size = fs.inodes.size := by
  rcases fs.touchDirectory_eq location with h | ⟨id, h⟩
  · rw [h]
  · rw [h, modifyInode, Array.size_modify]

theorem mode_putFile (fs : FileSystem) (location : Location) (mode : Nat) (content : Bytes) :
    (fs.putFile location mode content).2.mode (.file fs.inodes.size) = mode := by
  have hnew : ((fs.addInode mode content).2.inode fs.inodes.size).mode = mode := by
    rw [inode_addInode, if_pos rfl]
  exact (mode_touchDirectory _ _ _).trans hnew

theorem size_putFile (fs : FileSystem) (location : Location) (mode : Nat) (content : Bytes) :
    (fs.putFile location mode content).2.inodes.size = fs.inodes.size + 1 :=
  (size_touchDirectory _ _).trans (Array.size_push _)

theorem limit_putFile (fs : FileSystem) (location : Location) (mode : Nat) (content : Bytes) :
    (fs.putFile location mode content).2.limit = fs.limit := by
  unfold putFile put
  dsimp only
  rcases touchDirectory_eq _ _ with h | ⟨id, h⟩
  · rw [h]
    rfl
  · rw [h]
    rfl

theorem root_putFile (fs : FileSystem) (location : Location) (mode : Nat) (content : Bytes) :
    (fs.putFile location mode content).2.root =
      fs.root.alter (fun _ => some (.file fs.inodes.size)) location := root_put _ _ _

/-! ### Resolving -/

theorem resolve_eq_ok_iff {last : Last} {resolved : Resolved} :
    fs.resolve base p last = .ok resolved ↔
      ('\x00' ∉ p.octets ∧ p.octets ≠ [] ∧ p.octets.length < pathLimit) ∧
        fs.Walks last linkLimit (if p.isAbsolute then [] else base) p.names resolved := by
  rw [← walk_eq_ok_iff]
  unfold resolve
  by_cases hnul : '\x00' ∈ p.octets
  · simp [hnul]
  by_cases hempty : p.octets = []
  · simp [hempty]
  by_cases hlong : pathLimit ≤ p.octets.length
  · simp [hnul, hempty, hlong, Nat.not_lt.2 hlong]
  cases fs.walk last linkLimit (if p.isAbsolute then [] else base) p.names with
  | error cause => simp [hnul, hempty, hlong]
  | ok other => simp [hnul, hempty, hlong, Nat.not_le.1 hlong]

/-- Where a file can be made or written to, it is looked up in the same place. -/
theorem resolve_follow {resolved : Resolved} (h : fs.resolve base p .create = .ok resolved) :
    fs.resolve base p .follow = .ok resolved := by
  obtain ⟨hpath, hwalks⟩ := resolve_eq_ok_iff.1 h
  exact resolve_eq_ok_iff.2 ⟨hpath, hwalks.follow⟩

theorem Extends.open? (h : fs.Extends fs') {resolved : Resolved}
    (hr : fs.resolve base p .create = .ok resolved) {location : Location} {id : FileId}
    (hfile : resolved = .found location (.file id) ∨
      resolved = .vacant location ∧ fs'.root.at? location = some (.file id)) :
    fs'.open? base p = .ok (location, .file id) := by
  obtain ⟨hpath, hwalks⟩ := resolve_eq_ok_iff.1 (resolve_follow hr)
  have hfound : fs'.resolve base p .follow = .ok (.found location (.file id)) :=
    resolve_eq_ok_iff.2 ⟨hpath, h.walks hwalks hfile⟩
  rw [FileSystem.open?, hfound]

/-! ### Writing -/

theorem create_cases {mode : Nat} {node : Node} (h : fs.create base p mode = .ok (node, fs')) :
    (∃ location, fs.resolve base p .create = .ok (.vacant location) ∧ fs.mayChange location ∧
      node = .file fs.inodes.size ∧ fs' = (fs.putFile location mode []).2) ∨
    (∃ location, fs.resolve base p .create = .ok (.found location node) ∧
      node.isDirectory = false ∧ fs.mayWrite node ∧ fs' = fs) := by
  unfold create at h
  split at h
  · simp at h
  next location hr =>
    split at h
    next hmay =>
      obtain ⟨rfl, rfl⟩ := by simpa using h
      exact .inl ⟨location, hr, hmay, rfl, rfl⟩
    · simp at h
  next location found hr =>
    split at h
    · simp at h
    next hdir =>
      split at h
      next hmay =>
        obtain ⟨rfl, rfl⟩ := by simpa using h
        exact .inr ⟨location, hr, by simpa using hdir, hmay, rfl⟩
      · simp at h

def HasRoom (fs : FileSystem) (content : Bytes) : Prop :=
  ∀ room errno, fs.limit = some (room, errno) → content.length ≤ room

/-- A file that is written anew holds a front of what it is to hold, and if the write succeeds, all
of it. -/
theorem exists_rewrite (fs : FileSystem) (id : FileId) (content : Bytes) :
    ∃ front, front <+: content ∧ (fs.rewrite id content).2 = fs.setContent id front ∧
      ((fs.rewrite id content).1 = .ok () → front = content) := by
  unfold rewrite
  split
  · exact ⟨content, List.prefix_rfl, rfl, fun _ => rfl⟩
  next room errno _ =>
    refine ⟨content.take room, List.take_prefix _ _, rfl, fun hwritten => ?_⟩
    by_cases hroom : content.length ≤ room
    · exact List.take_of_length_le hroom
    · simp [hroom] at hwritten

theorem rewrite_of_hasRoom {content : Bytes} (h : fs.HasRoom content) (id : FileId) :
    fs.rewrite id content = (.ok (), fs.setContent id content) := by
  unfold rewrite
  split
  · rfl
  next room errno hlimit =>
    have hroom := h room errno hlimit
    rw [if_pos hroom, List.take_of_length_le hroom]

/-- What writing a whole file ends with, and what it leaves. -/
inductive Writes (fs : FileSystem) (base : Location) (p : Path) (content : Bytes) :
    Except IoError Unit × FileSystem → Prop
  /-- Nothing could be opened. -/
  | refused (cause : IoError) : Writes fs base p content (.error cause, fs)
  | made {location front ended} (leads : fs.resolve base p .create = .ok (.vacant location))
      (writable : fs.mayChange location) (initial : front <+: content)
      (whole : ended = .ok () → front = content) :
      Writes fs base p content
        (ended, (fs.putFile location 0o644 []).2.setContent fs.inodes.size front)
  | changed {location id front ended}
      (leads : fs.resolve base p .create = .ok (.found location (.file id)))
      (writable : fs.mayWrite (.file id)) (initial : front <+: content)
      (whole : ended = .ok () → front = content) :
      Writes fs base p content (ended, fs.setContent id front)
  /-- It went to something that keeps nothing. -/
  | lost {location node ended} (leads : fs.resolve base p .create = .ok (.found location node))
      (file : node.isDirectory = false) (unstored : ∀ id, node ≠ .file id)
      (writable : fs.mayWrite node) : Writes fs base p content (ended, fs)

theorem writes_write (fs : FileSystem) (base : Location) (p : Path) (content : Bytes) :
    fs.Writes base p content (fs.write base p content) := by
  unfold write
  split
  · exact .refused _
  next id made hmade =>
    obtain ⟨front, hfront, hleft, hwhole⟩ := made.exists_rewrite id content
    have hrewrite : made.rewrite id content =
        ((made.rewrite id content).1, made.setContent id front) := Prod.ext rfl hleft
    rw [hrewrite]
    rcases create_cases hmade with ⟨location, hr, hmay, hid, rfl⟩ | ⟨location, hr, -, hmay, rfl⟩
    · obtain rfl := Node.file.inj hid
      exact .made hr hmay hfront hwhole
    · exact .changed hr hmay hfront hwhole
  next made hmade =>
    rcases create_cases hmade with ⟨_, _, _, hnode, _⟩ | ⟨location, hr, hdir, hmay, rfl⟩
    · simp at hnode
    · exact .lost hr hdir (by simp) hmay
  next node made hfile _ hmade =>
    rcases create_cases hmade with ⟨_, _, _, hnode, _⟩ | ⟨location, hr, hdir, hmay, rfl⟩
    · exact (hfile _ hnode).elim
    · exact .lost hr hdir hfile hmay

/-- Nothing is written below a name of the root where nothing is made below it. -/
theorem at?_of_write (content : Bytes) {name : Text}
    (hapart : ∀ location, fs.resolve base p .create = .ok (.vacant location) →
      location.head? ≠ some name) :
    (fs.write base p content).2.root.at? [name] = fs.root.at? [name] := by
  have hwrites := fs.writes_write base p content
  generalize fs.write base p content = result at hwrites
  cases hwrites with
  | refused => rfl
  | @made location front _ leads =>
    have hroot : ((fs.putFile location 0o644 []).2.setContent fs.inodes.size front).root =
        fs.root.alter (fun _ => some (.file fs.inodes.size)) location :=
      root_putFile fs location _ _
    rw [hroot, Node.at?_alter_of_head?_ne (hapart location leads)]
  | changed => rfl
  | lost => rfl

/-! ### Reading what was written -/

theorem open?_of_resolve {location : Location} {node : Node}
    (h : fs.resolve base p .create = .ok (.found location node)) :
    fs.open? base p = .ok (location, node) := by
  rw [open?, resolve_follow h]

theorem not_open?_of_vacant {location : Location}
    (h : fs.resolve base p .create = .ok (.vacant location)) :
    fs.open? base p = .error (.os .noEntry) := by
  rw [open?, resolve_follow h]

theorem read_of_open? {location : Location} {id : FileId}
    (hopen : fs.open? base p = .ok (location, .file id)) (hread : fs.mayRead (.file id)) :
    fs.read base p = .ok (fs.inode id).content := by
  rw [read, hopen]
  simp [readNode, hread]

theorem open?_setContent {location : Location} {id : FileId}
    (hr : fs.resolve base p .create = .ok (.found location (.file id))) (content : Bytes) :
    (fs.setContent id content).open? base p = .ok (location, .file id) :=
  (fs.extends_setContent id content).open? hr (.inl rfl)

/-- A stored file with this content stands at the path. -/
def Holds (fs : FileSystem) (base : Location) (p : Path) (content : Bytes) : Prop :=
  ∃ location id, fs.open? base p = .ok (location, .file id) ∧ id < fs.inodes.size ∧
    (fs.inode id).content = content

theorem Holds.read {content : Bytes} (h : fs.Holds base p content) :
    fs.read base p = .ok content ∨ fs.read base p = .error (.os .accessDenied) := by
  obtain ⟨location, id, hopen, -, rfl⟩ := h
  by_cases hmay : fs.mayRead (.file id)
  · exact .inl (read_of_open? hopen hmay)
  · exact .inr (by simp [FileSystem.read, hopen, readNode, hmay])

theorem Holds.not_vacant {old : Bytes} (hold : fs.Holds base p old) (location : Location) :
    fs.resolve base p .create ≠ .ok (.vacant location) := by
  obtain ⟨_, id, hopen, -⟩ := hold
  intro hr
  simp [not_open?_of_vacant hr] at hopen

/-- What a stored file holds when it has been written to, whether it may be read or not: what it
held if it could not be opened, and else a front of the new content. -/
theorem Holds.write {old : Bytes} (hold : fs.Holds base p old) (content : Bytes) :
    let written := fs.write base p content
    ∃ after, written.2.Holds base p after ∧ (written.1 = .ok () → after = content) ∧
      (written.1 ≠ .ok () ∧ after = old ∨ after <+: content) := by
  have hvacant := hold.not_vacant
  obtain ⟨there, stored, hopen, hused, hcontent⟩ := id hold
  have hwrites := fs.writes_write base p content
  dsimp only
  generalize fs.write base p content = result at hwrites
  cases hwrites with
  | refused => exact ⟨old, hold, nofun, .inl ⟨nofun, rfl⟩⟩
  | @made location _ _ leads => exact absurd leads (hvacant location)
  | @changed location id front _ leads _ initial whole =>
    rw [open?_of_resolve leads] at hopen
    obtain ⟨-, rfl⟩ := by simpa using hopen
    refine ⟨front, ⟨location, id, open?_setContent leads front, ?_,
      content_setContent hused front⟩, whole, .inr initial⟩
    rwa [setContent, modifyInode, Array.size_modify]
  | lost leads _ unstored =>
    rw [open?_of_resolve leads] at hopen
    obtain ⟨-, rfl⟩ := by simpa using hopen
    exact absurd rfl (unstored _)

/-- Writing to a file that is there. -/
theorem read_setContent {location : Location} {id : FileId}
    (hr : fs.resolve base p .create = .ok (.found location (.file id))) (hused : id < fs.inodes.size)
    (hmay : fs.mayRead (.file id)) (content : Bytes) :
    (fs.setContent id content).read base p = .ok content := by
  have hstill : (fs.setContent id content).mayRead (.file id) := by
    rwa [mayRead, allows, mode_setContent]
  rw [read_of_open? (open?_setContent hr content) hstill, content_setContent hused]

/-- Writing to a new file. -/
theorem read_putFile {location : Location}
    (hr : fs.resolve base p .create = .ok (.vacant location))
    (hdir : (fs.root.at? location.dropLast).any Node.isDirectory) (content : Bytes) :
    ((fs.putFile location 0o644 []).2.setContent fs.inodes.size content).read base p =
      .ok content := by
  obtain ⟨here, name, rfl, hfree⟩ := (resolve_eq_ok_iff.1 hr).2.vacant
  rw [List.dropLast_concat] at hdir
  obtain ⟨node, hnode, hdir⟩ := (Option.any_eq_true _ _).1 hdir
  obtain ⟨parent, children, rfl⟩ := Node.exists_directory_of_isDirectory hdir
  let id := fs.inodes.size
  let made := (fs.putFile (here ++ [name]) 0o644 []).2
  have hstands : (made.setContent id content).root.at? (here ++ [name]) = some (.file id) := by
    have hroot : (made.setContent id content).root =
        fs.root.alter (fun _ => some (.file id)) (here ++ [name]) := root_putFile fs _ _ _
    rw [hroot, Node.at?_alter_self hnode]
  have hextends : fs.Extends (made.setContent id content) :=
    (extends_putFile hfree (by decide) []).trans (made.extends_setContent id content)
  have hopen : (made.setContent id content).open? base p = .ok (here ++ [name], .file id) :=
    hextends.open? hr (.inr ⟨rfl, hstands⟩)
  -- The file was made to be read by its owner.
  have hmay : (made.setContent id content).mayRead (.file id) := by
    rw [mayRead, allows, mode_setContent, mode_putFile]
    decide
  have hused : id < made.inodes.size := by
    rw [size_putFile]
    exact Nat.lt_succ_self _
  rw [read_of_open? hopen hmay, content_setContent hused]

/-- A path that leads to a regular file that may be read, or to a place in a directory, apart from
the process files, where one can be made. -/
inductive Keeps (fs : FileSystem) (base : Location) (p : Path) : Prop
  | stored {location id} (leads : fs.open? base p = .ok (location, .file id))
      (used : id < fs.inodes.size) (readable : fs.mayRead (.file id))
  | vacant {location} (leads : fs.resolve base p .create = .ok (.vacant location))
      (inside : (fs.root.at? location.dropLast).any Node.isDirectory)
      (apart : location.head? ≠ System.processRoot.head?)

theorem Keeps.of_vacant (hk : fs.Keeps base p) {location : Location}
    (hr : fs.resolve base p .create = .ok (.vacant location)) :
    (fs.root.at? location.dropLast).any Node.isDirectory ∧
      location.head? ≠ System.processRoot.head? := by
  cases hk with
  | stored leads => simp [not_open?_of_vacant hr] at leads
  | vacant leads inside apart =>
    obtain rfl := Resolved.vacant.inj (Except.ok.inj (leads.symm.trans hr))
    exact ⟨inside, apart⟩

theorem Keeps.of_found (hk : fs.Keeps base p) {location : Location} {node : Node}
    (hr : fs.resolve base p .create = .ok (.found location node)) :
    ∃ id, node = .file id ∧ id < fs.inodes.size ∧ fs.mayRead (.file id) := by
  cases hk with
  | @stored _ id leads used readable =>
    rw [open?_of_resolve hr] at leads
    obtain ⟨-, rfl⟩ := by simpa using leads
    exact ⟨id, rfl, used, readable⟩
  | vacant leads => simp [leads] at hr

theorem read_of_write {content : Bytes} (hk : fs.Keeps base p)
    (h : (fs.write base p content).1 = .ok ()) :
    (fs.write base p content).2.read base p = .ok content := by
  have hwrites := fs.writes_write base p content
  generalize fs.write base p content = result at hwrites h
  cases hwrites with
  | refused => nomatch h
  | made leads _ _ whole =>
    obtain rfl := whole h
    exact read_putFile leads (hk.of_vacant leads).1 _
  | changed leads _ _ whole =>
    obtain rfl := whole h
    obtain ⟨_, hid, hused, hmay⟩ := hk.of_found leads
    obtain rfl := Node.file.inj hid
    exact read_setContent leads hused hmay _
  | lost leads _ unstored =>
    obtain ⟨id, hid, -⟩ := hk.of_found leads
    exact absurd hid (unstored id)

/-- A path that leads to a regular file that may be written and read, or to a place in a directory
where one may be made. -/
inductive Stores (fs : FileSystem) (base : Location) (p : Path) : Prop
  | stored {location id} (leads : fs.resolve base p .create = .ok (.found location (.file id)))
      (used : id < fs.inodes.size) (writable : fs.mayWrite (.file id))
      (readable : fs.mayRead (.file id))
  | vacant {location} (leads : fs.resolve base p .create = .ok (.vacant location))
      (inside : (fs.root.at? location.dropLast).any Node.isDirectory)
      (writable : fs.mayChange location)

theorem Stores.exists_write (h : fs.Stores base p) {content : Bytes} (hroom : fs.HasRoom content) :
    ∃ saved, fs.write base p content = (.ok (), saved) ∧ saved.read base p = .ok content := by
  cases h with
  | @stored _ id leads used writable readable =>
    refine ⟨fs.setContent id content, ?_, read_setContent leads used readable content⟩
    simp [write, create, leads, writable, Node.isDirectory, rewrite_of_hasRoom hroom]
  | @vacant location leads inside writable =>
    have hmade : (fs.putFile location 0o644 []).2.HasRoom content := by
      rwa [HasRoom, limit_putFile]
    refine ⟨_, ?_, read_putFile leads inside content⟩
    simp [write, create, leads, writable]
    exact rewrite_of_hasRoom hmade _

end FileSystem

/-! ### Files as the shell finds them -/

namespace Node

theorem alterChild_alterChild (name : Text) (first second : Node) (children : List (Text × Node)) :
    alterChild name (fun _ => some second) (alterChild name (fun _ => some first) children) =
      alterChild name (fun _ => some second) children := by
  induction children with
  | nil => simp [alterChild]
  | cons pair rest ih =>
    obtain ⟨key, child⟩ := pair
    by_cases hk : key = name
    · simp [alterChild, hk]
    · simp [alterChild, hk, ih]

theorem alterChild_of_lookup {name : Text} {node : Node} {children : List (Text × Node)}
    (h : children.lookup name = some node) :
    alterChild name (fun _ => some node) children = children := by
  induction children with
  | nil => simp at h
  | cons pair rest ih =>
    obtain ⟨key, child⟩ := pair
    rw [lookup_cons] at h
    by_cases hk : key = name
    · obtain rfl : child = node := by simpa [hk] using h
      simp [alterChild, hk]
    · simp [alterChild, hk, ih (by simpa [Ne.symm hk] using h)]

/-- What was put in the place of something for a while is there again. -/
theorem alter_alter_of_at? {name : Text} {root node : Node} (h : root.at? [name] = some node)
    (other : Node) :
    (root.alter (fun _ => some other) [name]).alter (fun _ => some node) [name] = root := by
  obtain ⟨id, children, rfl⟩ := exists_directory_of_at? h
  have hlookup : children.lookup name = some node := by simpa using h
  simp [alter, alterChild_alterChild, alterChild_of_lookup hlookup]

end Node

/-- The process files say nothing of other files. -/
theorem System.processFiles_of_files (s : System) (files : FileSystem) (self : Nat) :
    System.processFiles { s with files } self = s.processFiles self := rfl

theorem System.process?_accept (s : System) (files : FileSystem) (id : Nat) :
    (s.accept files).process? id = s.process? id := by
  unfold accept
  split <;> rfl

theorem System.at?_view (s : System) (self : Nat) :
    (s.view self).root.at? processRoot =
      (s.files.root.at? processRoot).map fun _ => s.processFiles self := by
  unfold view
  split
  next hnone => rw [hnone, Option.map_none]
  next hat =>
    obtain ⟨id, children, hroot⟩ := Node.exists_directory_of_at? hat
    rw [hat, Option.map_some, hroot]
    exact Node.at?_alter_self (Node.at?_nil _) "proc".toList _

/-- Files that the shell has taken over are found as they are, if the process files are where they
were. -/
theorem System.view_accept {s : System} {self : Nat} {files : FileSystem}
    (h : files.root.at? processRoot = (s.view self).root.at? processRoot) :
    (s.accept files).view self = files := by
  rw [at?_view] at h
  unfold accept
  split
  next hnone =>
    rw [hnone, Option.map_none] at h
    simp [view, h]
  next node hat =>
    rw [hat, Option.map_some] at h
    obtain ⟨id, children, hroot⟩ := Node.exists_directory_of_at? h
    have hkept :
        (files.root.alter (fun _ => some node) processRoot).at? processRoot = some node := by
      rw [hroot]
      exact Node.at?_alter_self (Node.at?_nil _) "proc".toList node
    have hback := Node.alter_alter_of_at? h node
    unfold view
    simp only [hkept, processFiles_of_files]
    exact congrArg (fun root => { files with root }) hback

namespace Host

theorem files_accept {host : Host} {files : FileSystem}
    (h : files.root.at? System.processRoot = host.files.root.at? System.processRoot) :
    (host.accept files).files = files := System.view_accept h

theorem directory_accept (host : Host) (files : FileSystem) :
    (host.accept files).directory = host.directory := by
  have hprocess := System.process?_accept host.system files host.self
  exact congrArg (fun p => (p.map Process.directory).getD []) hprocess

end Host
end LineShell
