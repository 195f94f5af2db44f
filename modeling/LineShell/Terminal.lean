import LineShell.Intake
import LineShell.Text.Grapheme

/-!
Reading lines that are typed. They are taken from the standard input that the shell shares with its
programs, so a program that reads takes the lines typed after its command.
-/
namespace LineShell

/-- The text of a line that was typed: without its newline and one carriage return in front of it,
and without what backspaces erase. -/
def typedText? (line : Bytes) : Option Text := do
  let t ← Utf8.decode? line
  let t := match t.reverse with
    | '\n' :: '\r' :: front => front.reverse
    | '\n' :: front => front.reverse
    | _ => t
  return Text.withoutErased t

namespace Shell

def prompt : Text := ['$', ' ']

/-- Writes a text past the commands; nothing is done about a stream that refuses it. -/
def tell (sh : Shell) (t : Text) : Shell := (Shell.print t sh).2

/-- Runs a line that was typed; none comes back if it is not text. -/
def hear (factories : List Factory) (line : Bytes) (sh : Shell) : Option Shell :=
  (typedText? line).map fun t => sh.accept factories (Text.stripComment t)

/-- Prompts for lines and runs them until one asks to stop or the input ends. No more than `limit`
lines are read. -/
def converse (factories : List Factory) : Nat → Bytes → Shell → Shell
  | 0, _, sh => sh
  | limit + 1, read, sh =>
    if sh.isOver then sh
    else
      match takeLine 0 Activity.readLimit read (sh.tell prompt) with
      | (.error errno, sh) =>
        { sh with warnings := sh.warnings ++ [.inputLost (.io (.os errno))] }
      | (.ok ([], _), sh) => sh.tell ['\n']
      | (.ok (line, read), sh) =>
        match sh.hear factories line with
        | none => { sh with warnings := sh.warnings ++ [.inputLost (.io .invalidUtf8)] }
        | some sh => converse factories limit read sh

def converseAll (factories : List Factory) : Shell → Shell :=
  converse factories Activity.readLimit []

end Shell
end LineShell
