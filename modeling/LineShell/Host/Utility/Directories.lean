import LineShell.Host.Mode
import LineShell.Host.Utility.Words

/-! Making directories and taking them away. -/
namespace LineShell.Utility

/-- What stands under a path: the last name is not followed if it is a link. -/
structure Entry where
  location : Location
  node : Option Node

/-- Looks up what a path names, for making or removing it. -/
def entryAt (name : Text) : Tool (Except IoError Entry) := do
  let v ← Tool.view
  let path := withoutEndSlashes name
  match v.entry path with
  | .error cause => return .error cause
  | .ok (.vacant location) => return .ok ⟨location, none⟩
  | .ok (.found location node) =>
    if path ≠ name ∧ !node.isDirectory then
      return if (v.node? name).any Node.isDirectory then .ok ⟨location, node⟩
        else .error (.os .notDirectory)
    else return .ok ⟨location, node⟩

/-- Puts a node into a directory, if that may be changed. -/
def place (location : Location) (node : Node) : Tool (Option IoError) :=
  Tool.change fun files _ =>
    if files.mayChange location then .ok (files.put location node)
    else .error (.os .accessDenied)

/-- Makes a directory, if the directory around it may be changed. -/
def placeDirectory (location : Location) (mode : Nat) : Tool (Option IoError) :=
  Tool.change fun files _ =>
    if files.mayChange location then .ok (files.putDirectory location mode)
    else .error (.os .accessDenied)

/-- Takes a node out of its directory, if that may be changed. Who is in it stays there. -/
def takeAway (location : Location) : Tool (Option IoError) := do
  let cause ← Tool.change fun files _ =>
    if files.mayChange location then .ok (files.erase location)
    else .error (.os .accessDenied)
  if cause.isNone then Tool.act (.change (System.strand · location))
  return cause

/-- Complains about a failure, if there was one, and says whether there was. -/
def blameFor (what name : Text) : Option IoError → Tool Bool
  | none => return false
  | some cause => do
    Tool.blame 1 (what ++ ' ' :: quote name ++ ": ".toList ++ reason cause)
    return true

/-- The paths of the directories on the way to a path, the outermost first. -/
def parentsOf : Nat → Text → List Text
  | 0, _ => []
  | n + 1, t =>
    let front := directoryName t
    if front = ['.'] ∨ front = ['/'] then [] else parentsOf n front ++ [front]

/-- Makes a directory, and says why it cannot be made. -/
def makeOne (mode : Nat) (name : Text) : Tool (Option IoError) := do
  match ← entryAt name with
  | .error cause => return some cause
  | .ok ⟨location, none⟩ => placeDirectory location mode
  | .ok ⟨_, some _⟩ => return some (.os .fileExists)

def makeDirectories : Tool Nat := do
  let g ← Known.givenOperands
    { letters := "pv", valued := "m", long := [("parents", 'p'), ("mode", 'm'), ("verbose", 'v')] }
  let mask := (← Tool.process).mask
  let usual := 0o777 &&& (0o777 ^^^ mask)
  let mode ← match g.value? 'm' with
    | none => pure usual
    | some t =>
      match (Mode.octal? t).orElse fun _ => Mode.changed? true mask t 0o777 with
      | some mode => pure mode
      | none => Tool.refuse 1 ("invalid mode ".toList ++ quotePlainly t)
  let what := "cannot create directory".toList
  for name in g.operands do
    let mut failed := false
    if g.has 'p' then
      for parent in parentsOf name.length name do
        if !failed ∧ (← Tool.find parent).toOption.isNone then
          failed := (← blameFor what parent (← makeOne (usual ||| 0o300) parent))
    if !failed then
      let isThere := match ← Tool.find name with
        | .ok (_, node) => g.has 'p' && node.isDirectory
        | .error _ => false
      if !isThere then
        if !(← blameFor what name (← makeOne mode name)) ∧ g.has 'v' then
          Tool.printLine ("mkdir: created directory ".toList ++ quote name)
  return 0

/-- Removes an empty directory, and says why it cannot be removed. -/
def removeOne (name : Text) : Tool (Option IoError) := do
  let path := withoutEndSlashes name
  let last := (splitWhere (· == '/') path).getLast?.getD []
  match ← entryAt path with
  | .error cause => return some cause
  | .ok ⟨_, none⟩ => return some (.os .noEntry)
  | .ok ⟨location, some node⟩ =>
    if path = ['/'] then return some (.os .busy)
    else if last = ['.'] then return some (.os .invalidArgument)
    else if last = ['.', '.'] then return some (.os .notEmpty)
    else if !(← Tool.view).files.mayChange location then return some (.os .accessDenied)
    else
      match node with
      | .directory _ [] => takeAway location
      | .directory .. => return some (.os .notEmpty)
      | _ => return some (.os .notDirectory)

def removeDirectories : Tool Nat := do
  let g ← Known.givenOperands
    { letters := "pv"
      long := [("parents", 'p'), ("verbose", 'v'), ("ignore-fail-on-non-empty", 'I')] }
  for name in g.operands do
    let parents := if g.has 'p' then (parentsOf name.length name).reverse else []
    let mut failed := false
    for (path, i) in (name :: parents).zipIdx do
      if !failed then
        let cause ← removeOne path
        if g.has 'v' then Tool.printLine ("rmdir: removing directory, ".toList ++ quote path)
        failed := cause.isSome
        let node := (← entryAt (withoutEndSlashes path)).toOption.bind Entry.node
        if path.getLast? = some '/' ∧ cause = some (.os .notDirectory) ∧ node.any Node.isLink then
          Tool.blame 1
            ("failed to remove ".toList ++ quote path ++ ": Symbolic link not followed".toList)
        else if !(g.has 'I' ∧ cause = some (.os .notEmpty)) then
          let what := if i = 0 then "failed to remove" else "failed to remove directory"
          let _ ← blameFor what.toList path cause
  return 0

end LineShell.Utility
