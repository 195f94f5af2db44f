import LineShell.Builtin.Alias
import LineShell.Builtin.Directory
import LineShell.Builtin.Exit
import LineShell.Builtin.Recall
import LineShell.Builtin.Variables

/-! All builtins in the order in which they are looked up, and `help`, which describes them. -/
namespace LineShell.Builtin

def helpSynopsis : Synopsis where
  name := "help".toList
  description := "Describe the builtin commands.".toList
  operands := .optional "topic".toList "builtin to describe in full".toList

def topics : List Synopsis :=
  [exit.synopsis, cd.synopsis, env.synopsis, setenv.synopsis, unsetenv.synopsis, helpSynopsis,
    history.synopsis, aliases.synopsis]

/-- Without a topic, shows how each builtin is called. -/
def runHelp (operands : List Text) : Command := fun sh =>
  match operands with
  | [] => Shell.printLines (topics.map Synopsis.usageLine) sh
  | topic :: _ =>
    match topics.find? (·.name == topic) with
    | some s => Shell.print (Text.trimEnd s.usage).line sh
    | none => (.error (.usage 1 ("no help topics match `".toList ++ topic ++ "`".toList)), sh)

def help : Builtin where
  synopsis := helpSynopsis
  execute := runHelp

def table : List Builtin := [exit, cd, env, setenv, unsetenv, help, history, aliases]

def names : List Text := table.map name

/-- Makes builtins. Their names are matched exactly. -/
def factory : Factory := fun _ name arguments =>
  (table.find? (·.name == name)).map (·.command arguments)

end LineShell.Builtin
