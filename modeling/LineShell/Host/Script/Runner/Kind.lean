import LineShell.Host.Script.Builtin.Variables
import LineShell.Host.Script.Runner.Program

/-!
What the name of a command stands for.
-/
namespace LineShell.Script.Runner

inductive Kind
  | function (body : Command)
  /-- A command of the script's own; mistakes in a special one end the script. -/
  | builtin (special : Bool)
  | program

/-- The names of the commands that a script carries out itself and that are not special. -/
def regularNames : List Text :=
  ["alias", "bg", "cd", "chdir", "command", "echo", "false", "fg", "getopts", "hash", "jobs",
    "kill", "printf", "pwd", "read", "test", "[", "true", "type", "ulimit", "umask", "unalias",
    "wait"].map String.toList

/-- What a name stands for. The special commands come before functions, the others behind. -/
def kindOf (m : Machine) (name : Text) : Kind :=
  if specialNames.contains name then .builtin true
  else
    match m.functions.lookup name with
    | some body => .function body
    | none => if regularNames.contains name then .builtin false else .program

/-- Says what a name stands for: at length, or so that it can be used. -/
def describe (long : Bool) (name : Text) : Step Nat := do
  let m ← get
  let say (short : Text) (text : String) : Step Nat := do
    Step.printLine (if long then name ++ text.toList else short)
    return 0
  if keywords.contains name then say name " is a shell keyword"
  else
    match m.aliases.lookup name with
    | some text =>
      Step.printLine (if long then name ++ " is an alias for ".toList ++ text
        else "alias ".toList ++ Builtin.aliasText name text)
      return 0
    | none =>
      match kindOf m name with
      | .function _ => say name " is a shell function"
      | .builtin true => say name " is a special shell builtin"
      | .builtin false => say name " is a shell builtin"
      | .program =>
        let v ← Step.view
        match findProgram v (searchPath m) name with
        | .ok file =>
          if (v.node? file).any v.files.mayExecute then
            let known := if (m.tracked.lookup name).isSome then " a tracked alias for" else ""
            track name file
            Step.printLine
              (if long then name ++ " is".toList ++ known.toList ++ ' ' :: file else file)
            return 0
          else
            if long then Step.printLine (name ++ ": not found".toList)
            return 127
        | .error _ =>
          if long then Step.printLine (name ++ ": not found".toList)
          return 127

def describeAll (long : Bool) : Nat → List Text → Step Nat
  | status, [] => return status
  | status, name :: rest => do
    let found ← describe long name
    describeAll long (if found = 0 then status else found) rest

/-- Prints the files of the programs that have been found, or finds more. -/
def trackAll (arguments : List Text) : Step Nat := do
  let (options, names) ← Builtin.options "r" arguments
  let m ← get
  if options ≠ [] then
    set { m with tracked := [] }
    return 0
  if names = [] then
    for (_, file) in Machine.inBuckets 31 m.tracked do Step.printLine file
    return 0
  let mut status := 0
  for name in names do
    match kindOf m name with
    | .program =>
      match findProgram (← Step.view) (searchPath m) name with
      | .ok file => track name file
      | .error errno =>
        Step.report (name ++ ": ".toList ++ reasonFor "not found" (.os errno))
        status := 1
    | _ => pure ()
  return status

end LineShell.Script.Runner
