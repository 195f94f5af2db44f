import LineShell.Host.Utility.Backup
import LineShell.Host.Utility.Removal

/-! Copying, moving and linking files. -/
namespace LineShell.Utility

/-- The operands of a program that copies or moves: what it takes, and where to. Where that is a
directory the names stay the same. -/
def destinations (g : Given) : Tool (List (Text × Text)) := do
  match g.operands with
  | [] => Tool.misuse 1 "missing file operand".toList
  | [one] =>
    match g.value? 't' with
    | some there => return [(one, Path.within there (lastName one))]
    | none => Tool.misuse 1 ("missing destination file operand after ".toList ++ quotePlainly one)
  | operands =>
    let (sources, there) := match g.value? 't' with
      | some there => (operands, there)
      | none => (operands.dropLast, operands.getLastD [])
    let node := (← Tool.view).node? there
    if node.any Node.isDirectory ∧ !g.has 'T' then
      return sources.map fun source => (source, Path.within there (lastName source))
    else
      match sources with
      | [source] => return [(source, there)]
      | _ =>
        if g.has 'T' then
          Tool.misuse 1 ("extra operand ".toList ++ quotePlainly (operands.getD 2 []))
        let cause := match ← Tool.find there with
          | .ok _ => "Not a directory".toList
          | .error cause => reason cause
        Tool.refuse 1 ("target ".toList ++ quote there ++ ": ".toList ++ cause)

def pair (source : Text) (middle : String) (there : Text) : Text :=
  quote source ++ middle.toList ++ quote there

def existing (name : Text) : Tool (Except IoError (Location × Node)) := do
  return (← entryAt name).bind fun entry =>
    match entry.node with
    | some node => .ok (entry.location, node)
    | none => .error (.os .noEntry)

/-- Whether what is there already is to be left alone. -/
def isSpared (g : Given) (there : Text) (source old : Node) : Tool Bool := do
  let files := (← Tool.view).files
  match (g.options.reverse.find? fun (c, _) => c == 'n' || c == 'i' || c == 'f').map (·.1) with
  | some 'n' => return true
  | some 'i' =>
    return !(← Tool.ask ("overwrite ".toList ++ quote there ++ "? ".toList))
  | _ => return g.has 'u' && decide (files.modified source ≤ files.modified old)

/-! ### Moving -/

def moveOne (g : Given) (backup : Option Backup) (source there : Text) : Tool Unit := do
  let v ← Tool.view
  let cannotMove (cause : IoError) : Tool Unit :=
    Tool.blame 1 ("cannot move ".toList ++ pair source " to " there ++ ": ".toList ++ reason cause)
  match ← existing source with
  | .error cause => let _ ← blameFor "cannot stat".toList source (some cause)
  | .ok (here, node) =>
    match ← entryAt there with
    | .error cause => cannotMove cause
    | .ok ⟨target, old⟩ =>
      let isSame := here = target ∨ (node.isFile ∧ old.any fun old =>
        old.isFile && node.id?.isSome && old.id? == node.id?)
      let oldIsDirectory := old.any Node.isDirectory
      if here = target then
        Tool.blame 1 (pair source " and " there ++ " are the same file".toList)
      else if here.isPrefixOf target then
        Tool.blame 1
          ("cannot move ".toList ++ pair source " to a subdirectory of itself, " there)
      else if ← (match old with
          | some old => isSpared g there node old
          | none => return false) then pure ()
      else if oldIsDirectory ∧ !node.isDirectory then
        Tool.blame 1 ("cannot overwrite directory ".toList ++ quote there ++
          " with non-directory".toList)
      else if old.isSome ∧ !oldIsDirectory ∧ node.isDirectory ∧ backup.isNone then
        Tool.blame 1 ("cannot overwrite non-directory ".toList ++ quote there ++
          " with directory ".toList ++ quote source)
      else if backup.isNone ∧ oldIsDirectory ∧ !(old.elim [] Node.children).isEmpty then
        cannotMove (.os .notEmpty)
      else if !(v.files.mayChange here ∧ v.files.mayChange target) then
        cannotMove (.os .accessDenied)
      else
        let mut note := []
        match old, backup with
        | some _, some b =>
          match ← b.make there target with
          | .ok name => note := " (backup: ".toList ++ quote name ++ [')']
          | .error _ => pure ()
        | _, _ => pure ()
        if isSame then
          let _ ← takeAway here
        else
          let _ ← Tool.change fun files _ => .ok ((files.erase here).put target node)
          Tool.act (.change (System.relocate · here target))
        if g.has 'v' then
          Tool.printLine ("renamed ".toList ++ pair source " -> " there ++ note)

def move : Tool Nat := do
  let g ← Known.given
    { letters := "finuvTZ", valued := "tS", loose := "b"
      long := [("force", 'f'), ("interactive", 'i'), ("no-clobber", 'n'), ("update", 'u'),
        ("verbose", 'v'), ("no-target-directory", 'T'), ("target-directory", 't'),
        ("backup", 'b'), ("suffix", 'S')] }
  let backup ← Backup.ofOptions g
  for (source, there) in ← destinations g do moveOne g backup source there
  return 0

/-! ### Copying -/

structure Copying where
  given : Given
  backup : Option Backup
  recursive : Bool
  /-- Links are copied, not what they lead to. -/
  keepsLinks : Bool
  /-- Permissions and times are copied as well. -/
  keepsAll : Bool

namespace Copying

def modeOf (c : Copying) (mode mask : Nat) : Nat :=
  if c.keepsAll then mode else mode &&& 0o777 &&& (0o777 ^^^ mask)

/-- Says what has been copied, if that is asked for. -/
def tellOf (c : Copying) (source there note : Text) : Tool Unit := do
  if c.given.has 'v' then Tool.printLine (pair source " -> " there ++ note)

def keepTime (c : Copying) (source : Node) (location : Location) : Tool Unit := do
  if c.keepsAll then
    let files := (← Tool.view).files
    let modified := files.modified source
    match (files.root.at? location).bind Node.id? with
    | some id =>
      let _ ← Tool.change fun files _ => .ok (files.modifyInode id ({ · with modified }))
    | none => pure ()

/-- Copies what can be read from one file to another. -/
def content (c : Copying) (source there : Text) (node : Node) (old : Option (Location × Node)) :
    Tool Bool := do
  match ← Tool.act (.content source) with
  | .error cause =>
    Tool.blame 1 ("cannot open ".toList ++ quote source ++ " for reading: ".toList ++ reason cause)
    return false
  | .ok t =>
    let create : Tool (Except IoError Nat) := Tool.act (.openForWriting there (.write false))
    let opened ← match ← create, old with
      | .error cause, some (location, _) =>
        if c.given.has 'f' then
          let _ ← takeAway location
          create
        else pure (.error cause)
      | result, _ => pure result
    match opened with
    | .error cause =>
      return !(← blameFor "cannot create regular file".toList there (some cause))
    | .ok descriptor =>
      if old.isNone then
        let mask := (← Tool.process).mask
        let v ← Tool.view
        match v.node? there with
        | some new =>
          let mode := c.modeOf (v.files.mode node) mask
          let _ ← Tool.change fun files _ => .ok (files.setMode new mode)
        | none => pure ()
      let lost ← if t = [] then pure none else Tool.act (.write descriptor t)
      Tool.act (.close descriptor)
      match lost with
      | some errno =>
        let _ ← blameFor "error writing".toList there (some (.os errno))
        return false
      | none => return true

/-- Copies what a path names to where another one leads. `isOperand` holds for what was named by the
one who asked. -/
def tree (c : Copying) : Nat → Bool → Text → Text → Tool Unit
  | 0, _, _, _ => return ()
  | n + 1, isOperand, source, there => do
    let g := c.given
    let follows := !c.keepsLinks || (isOperand && g.has 'H')
    match ← if follows then Tool.find source else existing source with
    | .error cause => let _ ← blameFor "cannot stat".toList source (some cause)
    | .ok (here, node) =>
      if node.isDirectory ∧ !c.recursive then
        Tool.blame 1 ("-r not specified; omitting directory ".toList ++ quote source)
        return
      let v ← Tool.view
      let old? := (v.find there).toOption
      match old? with
      | some (target, old) =>
        if target = here ∨ (node.isFile ∧ old.id?.isSome ∧ old.id? = node.id?) then
          if g.has 'l' then return
          Tool.blame 1 (pair source " and " there ++ " are the same file".toList)
          return
        if !old.isDirectory ∨ !node.isDirectory then
          if ← isSpared g there node old then return
        if node.isDirectory ∧ !old.isDirectory then
          Tool.blame 1 ("cannot overwrite non-directory ".toList ++ quote there ++
            " with directory ".toList ++ quote source)
          return
        if old.isDirectory ∧ !node.isDirectory then
          Tool.blame 1 ("cannot overwrite directory ".toList ++ quote there ++
            " with non-directory".toList)
          return
      | none => pure ()
      let mut note := []
      let mut old? := old?
      match old?, c.backup with
      | some (target, old), some b =>
        if !old.isDirectory then
          match ← b.make there target with
          | .ok name => note := " (backup: ".toList ++ quote name ++ [')']
          | .error _ => pure ()
          old? := none
      | _, _ => pure ()
      match ← entryAt there with
      | .error cause =>
        let kind := if node.isDirectory then "directory" else "regular file"
        let _ ← blameFor ("cannot create " ++ kind).toList there (some cause)
      | .ok ⟨target, _⟩ =>
        match node with
        | .directory _ children =>
          if here.isPrefixOf target then
            Tool.blame 1 ("cannot copy a directory, ".toList ++ quote source ++
              ", into itself, ".toList ++ quote there)
            return
          if !v.files.mayRead node then
            let _ ← blameFor "cannot access".toList source (some (.os .accessDenied))
            return
          if old?.isNone then
            let mode := c.modeOf (v.files.mode node) (← Tool.process).mask
            if ← blameFor "cannot create directory".toList there
                (← placeDirectory target (mode ||| 0o700)) then return
            c.tellOf source there []
          for (name, _) in children do
            c.tree n false (Path.within source name) (Path.within there name)
          if old?.isNone then
            let mode := c.modeOf (v.files.mode node) (← Tool.process).mask
            match (← Tool.view).files.root.at? target with
            | some new => let _ ← Tool.change fun files _ => .ok (files.setMode new mode)
            | none => pure ()
            c.keepTime node target
        | .link path =>
          if old?.isSome then let _ ← takeAway target
          if !(← blameFor "cannot create symbolic link".toList there
              (← place target (.link path))) then c.tellOf source there note
        | node =>
          if g.has 'l' ∨ g.has 's' then
            let new := if g.has 's' then Node.link ⟨source⟩ else node
            let kind := if g.has 's' then "cannot create symbolic link " else
              "cannot create hard link "
            if old?.isSome ∧ !g.has 'f' then
              Tool.blame 1 (kind.toList ++ pair there " to " source ++ ": File exists".toList)
            else
              match ← place target new with
              | some cause =>
                Tool.blame 1 (kind.toList ++ pair there " to " source ++ ": ".toList ++
                  reason cause)
              | none => c.tellOf source there note
          else
            match c.recursive, node with
            | true, .pipe .. =>
              let _ ← blameFor "cannot create fifo".toList there (← place target node)
            | _, _ =>
              if ← c.content source there node old? then
                c.keepTime node target
                c.tellOf source there note

end Copying

def copy : Tool Nat := do
  let g ← Known.given
    { letters := "rRafipndlsuvxHLPTZ", valued := "tS", loose := "bk", named := "k"
      long := [("recursive", 'r'), ("archive", 'a'), ("force", 'f'), ("no-clobber", 'n'),
        ("interactive", 'i'), ("update", 'u'), ("verbose", 'v'), ("link", 'l'),
        ("symbolic-link", 's'), ("dereference", 'L'), ("no-dereference", 'P'),
        ("no-target-directory", 'T'), ("target-directory", 't'), ("backup", 'b'), ("suffix", 'S'),
        ("preserve", 'k')] }
  let recursive := g.has 'r' || g.has 'R' || g.has 'a'
  let c : Copying :=
    { given := g, backup := ← Backup.ofOptions g, recursive
      keepsLinks := (recursive || g.has 'd' || g.has 'P') && !g.has 'L'
      keepsAll := g.has 'p' || g.has 'a' || g.has 'k' }
  for (source, there) in ← destinations g do
    if source ≠ withoutEndSlashes source ∧ !c.keepsLinks then
      c.tree depthLimit true source there
    else c.tree depthLimit true source (if (← Tool.view).node? there |>.any Node.isDirectory
      then there else withoutEndSlashes there)
  return 0

/-! ### Links -/

/-- What a link that is none of the symbolic ones leads to. -/
def linked? (source : Text) : Tool (Option Node) := do
  match ← existing source with
  | .ok (_, node) =>
    if node.isDirectory then
      Tool.blame 1 (quoteIfNeeded source ++ ": hard link not allowed for directory".toList)
      return none
    else return some node
  | .error cause =>
    let _ ← blameFor "failed to access".toList source (some cause)
    return none

def wayTo (directory : Location) (target : Location) : Text :=
  let rec shared : Location → Location → Nat
    | a :: rest, b :: more => if a = b then shared rest more + 1 else 0
    | _, _ => 0
  let n := shared directory target
  let names := List.replicate (directory.length - n) ['.', '.'] ++ target.drop n
  if names = [] then ['.'] else Text.joined ['/'] names

def makeLinks : Tool Nat := do
  let g ← Known.given
    { letters := "sfinvTrLP", valued := "tS", loose := "b"
      long := [("symbolic", 's'), ("force", 'f'), ("no-dereference", 'n'), ("verbose", 'v'),
        ("no-target-directory", 'T'), ("target-directory", 't'), ("relative", 'r'),
        ("interactive", 'i'), ("logical", 'L'), ("physical", 'P'), ("backup", 'b'),
        ("suffix", 'S')] }
  let backup ← Backup.ofOptions g
  let pairs ← match g.operands, g.has 't' with
    | [], _ => Tool.misuse 1 "missing file operand".toList
    | [one], false =>
      if g.has 'T' then
        Tool.misuse 1
          ("missing destination file operand after ".toList ++ quotePlainly one)
      else pure [(one, lastName one)]
    | operands, _ =>
      let there := operands.getLastD []
      let isPlainLink := match ← entryAt there with
        | .ok ⟨_, some (.link _)⟩ => g.has 'n'
        | _ => false
      if isPlainLink then pure [(operands.headD [], there)] else destinations g
  let kind := if g.has 's' then "symbolic link" else "hard link"
  for (source, there) in pairs do
    let failed (cause : IoError) : Tool Unit :=
      Tool.blame 1 (("failed to create " ++ kind ++ " ").toList ++ quote there ++
        (if g.has 's' ∨ cause = .os .fileExists then [] else " => ".toList ++ quote source) ++
        ": ".toList ++ reason cause)
    let v ← Tool.view
    let symbolic (target : Location) : Text :=
      if g.has 'r' then
        match v.files.resolve v.directory ⟨source⟩ .follow with
        | .ok (.found location _) | .ok (.vacant location) => wayTo target.dropLast location
        | .error _ => source
      else source
    let node? ← if g.has 's' then pure (some none) else (·.map some) <$> linked? source
    match node? with
    | none => pure ()
    | some node =>
      match ← entryAt there with
      | .error cause => failed cause
      | .ok ⟨target, old⟩ =>
        let isDirectory := old.any Node.isDirectory
        let node := node.getD (.link ⟨symbolic target⟩)
        if old.isSome ∧ isDirectory ∧ g.has 'f' then
          Tool.blame 1 (quoteIfNeeded there ++ ": cannot overwrite directory".toList)
        else if old.isSome ∧ g.has 'i' then
          if ← Tool.ask ("replace ".toList ++ quote there ++ "? ".toList) then
            let _ ← place target node
        else if old.isSome ∧ !g.has 'f' ∧ backup.isNone then failed (.os .fileExists)
        else
          let mut note := []
          match old, backup with
          | some _, some b =>
            match ← b.make there target with
            | .ok name => note := " ~ ".toList ++ quote name
            | .error _ => pure ()
          | _, _ => pure ()
          match ← place target node with
          | some cause => failed cause
          | none =>
            if g.has 'v' then
              let arrow := if g.has 's' then " -> " else " => "
              Tool.printLine (pair there arrow source ++ note)
  return 0

end LineShell.Utility
