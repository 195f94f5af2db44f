import LineShell.Builtin.Basic

/-! `history` lists the lines that were entered. -/
namespace LineShell.Builtin

def runHistory (_ : List Text) : Command := fun sh =>
  Shell.printLines (sh.session.history.numbered.map fun (number, line) =>
    Text.decimal number ++ ": ".toList ++ line) sh

def history : Builtin where
  synopsis :=
    { name := "history".toList
      description := "List the command history with entry numbers.".toList }
  execute := runHistory

end LineShell.Builtin
