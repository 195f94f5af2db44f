import LineShell.Builtin.Basic

/-! `env`, `setenv` and `unsetenv` show and change the variables. -/
namespace LineShell.Builtin

def runEnv (_ : List Text) : Command := fun sh =>
  Shell.printLines sh.session.env.texts sh

def env : Builtin where
  synopsis :=
    { name := "env".toList
      description := "Print the environment, one NAME=VALUE per line.".toList }
  execute := runEnv

/-- Names of variables are not empty and hold no `=`. -/
def isVariableName (name : Text) : Bool := name != [] && !name.contains '='

def runSetenv (operands : List Text) : Command := fun sh =>
  match operands with
  | [name, value] =>
    if isVariableName name then
      (.ok 0, { sh with session.env := sh.session.env.set name value })
    else (.error (.usage 1 ("invalid variable name: ".toList ++ name)), sh)
  | _ => (.error (.usage 1 "Incorrect number of arguments".toList), sh)

def setenv : Builtin where
  synopsis :=
    { name := "setenv".toList
      description := "Set an environment variable, replacing any previous value.".toList
      operands := .rest "args".toList }
  literal := true
  execute := runSetenv

/-- Takes the variables of these names out; a name that is not set is passed over. -/
def runUnsetenv (names : List Text) : Command := fun sh =>
  match names with
  | [] => (.error (.usage 1 "Too few arguments.".toList), sh)
  | names => (.ok 0, { sh with session.env := names.foldl Bindings.unset sh.session.env })

def unsetenv : Builtin where
  synopsis :=
    { name := "unsetenv".toList
      description := "Remove variables from the environment.".toList
      operands := .rest "names".toList }
  execute := runUnsetenv

end LineShell.Builtin
