import LineShell.Arguments
import LineShell.Shell
import LineShell.Text.Space

/-! Commands that the shell carries out itself. -/
namespace LineShell

/-- A command with its synopsis and what it does with its operands. -/
structure Builtin where
  synopsis : Synopsis
  /-- Every argument is an operand, whatever it looks like. -/
  literal : Bool := false
  execute : List Text → Command

namespace Builtin

def name (b : Builtin) : Text := b.synopsis.name

def parse (b : Builtin) (arguments : List Text) : Except Refusal Arguments :=
  b.synopsis.parse (if b.literal then ['-', '-'] :: arguments else arguments)

/-- Answers to arguments that the builtin is not run with: errors go to the error stream. -/
def refuse (b : Builtin) (refusal : Refusal) : Command :=
  let bytes := Utf8.encode (Text.trimEnd (refusal.message b.synopsis)).line
  if refusal.isError then Shell.putErr bytes 1 else Shell.putOut bytes 0

/-- Runs the builtin. It reports its own faults, and ends with the status of the fault. -/
def command (b : Builtin) (arguments : List Text) : Command := fun sh =>
  match b.parse arguments with
  | .error refusal => b.refuse refusal sh
  | .ok given =>
    match b.execute given.operands sh with
    | (.ok status, sh) => (.ok status, sh)
    | (.error fault, sh) => Shell.complain b.name fault.message fault.status sh

end Builtin
end LineShell
