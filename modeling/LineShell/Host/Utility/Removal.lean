import LineShell.Host.Utility.Directories

/-! Removing files and directories with all that is in them. -/
namespace LineShell.Utility

def kindName (files : FileSystem) : Node → String
  | .directory .. => "directory"
  | .link _ | .handle .. => "symbolic link"
  | .pipe .. => "fifo"
  | .device _ => "character special file"
  | node => if files.size node = 0 then "regular empty file" else "regular file"

def depthLimit : Nat := 10000

/-- Asks before a node is removed, where that is wanted or the node may not be written to. -/
def mayRemove (g : Given) (name : Text) (node : Node) (enters : Bool) : Tool Bool := do
  let files := (← Tool.view).files
  let prompts := (g.options.reverse.find? fun (c, _) => c == 'i' || c == 'f').any (·.1 == 'i')
  let guarded := !g.has 'f' && !node.isLink && !files.mayWrite node && (← Tool.hasTerminal)
  if !prompts ∧ !guarded then return true
  let quality := if guarded then "write-protected " else ""
  let question := if enters then "descend into " ++ quality ++ "directory "
    else "remove " ++ quality ++ kindName files node ++ " "
  Tool.ask (question.toList ++ quote name ++ "? ".toList)

/-- Removes what stands at a location with all that is inside, and says whether it is gone. -/
def removeTree (g : Given) : Nat → Text → Location → Node → Tool Bool
  | 0, _, _, _ => return false
  | n + 1, name, location, node => do
    let gone (cause : Option IoError) : Tool Bool := do
      let failed ← blameFor "cannot remove".toList name cause
      if !failed ∧ g.has 'v' then
        let what := if node.isDirectory then "removed directory " else "removed "
        Tool.printLine (what.toList ++ quote name)
      return !failed
    let files := (← Tool.view).files
    match node with
    | .directory _ [] =>
      if !files.mayRead node ∧ !g.has 'f' ∧ (← Tool.hasTerminal) then
        if ← mayRemove g name node false then gone (← takeAway location) else return false
      else if ← mayRemove g name node false then gone (← takeAway location)
      else return false
    | .directory _ children =>
      if !files.mayRead node ∨ !files.mayExecute node then
        gone (some (.os .accessDenied))
      else if ← mayRemove g name node true then
        let mut emptied := true
        for (child, inner) in children do
          let done ← removeTree g n (Path.within name child) (location ++ [child]) inner
          emptied := emptied && done
        if !emptied then return false
        else if ← mayRemove { g with options := g.options.filter (·.1 == 'i') } name node false then
          gone (← takeAway location)
        else return false
      else return false
    | _ =>
      if ← mayRemove g name node false then gone (← takeAway location) else return false

def remove : Tool Nat := do
  let g ← Known.given
    { letters := "frRdviI"
      loose := "p", named := "p"
      long := [("force", 'f'), ("recursive", 'r'), ("dir", 'd'), ("verbose", 'v'),
        ("interactive", 'i'), ("no-preserve-root", 'n'), ("preserve-root", 'p'),
        ("one-file-system", 'o')] }
  if g.operands = [] ∧ !g.has 'f' then Tool.misuse 1 "missing operand".toList
  let recursive := g.has 'r' || g.has 'R'
  let what := "cannot remove".toList
  for name in g.operands do
    let path := withoutEndSlashes name
    let last := (splitWhere (· == '/') path).getLast?.getD []
    match ← entryAt name with
    | .error cause =>
      if !(g.has 'f' ∧ (cause = .os .noEntry ∨ cause = .os .notDirectory)) then
        let _ ← blameFor what name (some cause)
    | .ok ⟨_, none⟩ =>
      if !g.has 'f' then let _ ← blameFor what name (some (.os .noEntry))
    | .ok ⟨location, some node⟩ =>
      if node.isDirectory ∧ (last = ['.'] ∨ last = ['.', '.']) ∧ recursive then
        Tool.blame 1
          ("refusing to remove '.' or '..' directory: skipping ".toList ++ quote name)
      else if node.isDirectory ∧ path = ['/'] ∧ recursive then
        Tool.blame 1 "it is dangerous to operate recursively on '/'".toList
        Tool.blame 1 "use --no-preserve-root to override this failsafe".toList
      else if node.isDirectory ∧ !recursive ∧ !g.has 'd' then
        let _ ← blameFor what name (some (.os .isDirectory))
      else if node.isDirectory ∧ !recursive ∧ !node.children.isEmpty then
        let _ ← blameFor what name (some (.os .notEmpty))
      else if name ≠ path ∧ node.isLink then
        let _ ← blameFor what name (some (.os .notDirectory))
      else
        let done ← removeTree g depthLimit name location node
        if !done then modify fun d => { d with status := max d.status 1 }
  return 0

end LineShell.Utility
