import LineShell.Host.Mode
import LineShell.Host.Script.Builtin.Basic

/-! Commands on the directory that a script is in, and on the permissions of new files. -/
namespace LineShell.Script.Builtin

/-- The absolute path of a target, with every `.` and `..` in it resolved as text. -/
def logicalPath (directory target : Text) : Text :=
  (Path.ofNames ((Path.names ⟨Path.within directory target⟩).foldl (fun names name =>
    if name = [] ∨ name = ['.'] then names
    else if name = ['.', '.'] then names.dropLast
    else names ++ [name]) [])).octets

/-- The location of the directory that a name leads to, if one can go there. -/
def directoryAt? (v : View) (name : Text) : Option Location :=
  match v.find name with
  | .ok (location, node) =>
    if node.isDirectory ∧ v.files.mayExecute node then some location else none
  | .error _ => none

/-- Moves to a directory, if it is one, and says whether it was. -/
def moveTo (physical : Bool) (target : Text) : Step Bool := do
  let m ← get
  let path := logicalPath m.directory target
  match directoryAt? (← Step.view) (if physical then target else path) with
  | none => return false
  | some location =>
    let path := if physical then location.path.octets else path
    Step.assign "OLDPWD".toList m.directory
    Step.assign "PWD".toList path
    Step.exportName "OLDPWD".toList
    Step.exportName "PWD".toList
    modify ({ · with directory := path })
    Step.perform (.alter ({ · with directory := location }))
    return true

/-- Whether a target is not looked for along the search path of directories. -/
def isRooted (target : Text) : Bool :=
  match (Path.names ⟨target⟩).head? with
  | some name => name = [] ∨ name = ['.'] ∨ name = ['.', '.']
  | none => false

/-- Moves to the first of these directories that is one: each with whether to print it. -/
def moveToFirst (physical : Bool) : List (Text × Bool) → Step (Option Bool)
  | [] => return none
  | (path, shown) :: rest => do
    if ← moveTo physical path then return some shown else moveToFirst physical rest

def changeDirectory (arguments : List Text) : Step Nat := do
  let (letters, operands) ← options "LP" arguments
  let physical := letters.getLast? = some 'P'
  let m ← get
  let (target, shown) := match operands with
    | [] => ((m.value? "HOME".toList).getD [], false)
    | ['-'] :: _ => ((m.value? "OLDPWD".toList).getD [], true)
    | target :: _ => (target, false)
  let target := if target = [] then ['.'] else target
  let search := if isRooted target then [] else ((m.value? "CDPATH".toList).map fun t =>
    (splitWhere (· == ':') t).map fun entry =>
      (if entry = [] then target else Path.within entry target, entry != [])).getD []
  match ← moveToFirst physical (search ++ [(target, false)]) with
  | none => Step.fail ("can't cd to ".toList ++ target)
  | some found =>
    if shown || found then Step.printLine (← get).directory
    return 0

def printDirectory (arguments : List Text) : Step Nat := do
  let (letters, _) ← options "LP" arguments
  let m ← get
  let physical := (← Step.self).directory.path.octets
  Step.printLine (if letters.getLast? = some 'P' then physical else m.directory)
  return 0

/-- Shows or sets which permissions new files do without. -/
def setMask (arguments : List Text) : Step Nat := do
  let (letters, operands) ← options "S" arguments
  let mask := (← Step.self).mask
  match operands with
  | [] =>
    if letters = [] then Step.printLine (Mode.digits 4 mask)
    else Step.printLine (Mode.clauses (0o777 ^^^ mask))
    return 0
  | t :: _ =>
    let new :=
      if t.head?.any Char.isDigit then Mode.octal? t
      else (Mode.changed? true 0 t (0o777 ^^^ mask)).map (0o777 ^^^ ·)
    match new with
    | some mask =>
      Step.perform (.alter ({ · with mask := mask &&& 0o777 }))
      return 0
    | none =>
      if t.head?.any Char.isDigit then Step.fail ("Illegal number: ".toList ++ t)
      else Step.fail ("Illegal mode: ".toList ++ t)

end LineShell.Script.Builtin
