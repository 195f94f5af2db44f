import LineShell.Text.Basic

/-! What arguments a command takes, and the usage text that says so. -/
namespace LineShell

structure Switch where
  short : Text
  long : Text
  /-- What the value is called. -/
  value : Text
  help : Text

inductive Operands
  | none
  /-- At most one operand. -/
  | optional (name help : Text)
  /-- Any number of operands; from the first on, nothing is an option. -/
  | rest (name : Text)

structure Synopsis where
  name : Text
  description : Text
  switches : List Switch := []
  operands : Operands := .none

namespace Usage

/-- Where the descriptions of a list start. -/
def column : Nat := 20

def width : Nat := 80

/-- Puts words behind a line, and on new lines from the column on where they would not fit. -/
def fill (line : Text) : List Text → Text
  | [] => line
  | word :: words =>
    if width < line.length + word.length + 1 then
      line ++ '\n' :: fill (List.replicate column ' ' ++ word) words
    else fill (line ++ ' ' :: word) words

/-- A name and its description, on lines of their own. -/
def item (name description : Text) : Text :=
  let head := ' ' :: ' ' :: name
  match splitWhere (· == ' ') description with
  | [] => Text.line head
  | word :: words =>
    let start := if head.length < column then head.rightpad column ' '
      else head ++ '\n' :: List.replicate column ' '
    Text.line (fill (start ++ word) words)

end Usage

namespace Synopsis

def usageLine (s : Synopsis) : Text :=
  let switches := s.switches.flatMap fun o =>
    " [".toList ++ o.short ++ " <".toList ++ o.value ++ ">]".toList
  let operands := match s.operands with
    | .none => []
    | .optional name _ => " [--] [<".toList ++ name ++ ">]".toList
    | .rest name => " [".toList ++ name ++ "...]".toList
  "Usage: ".toList ++ s.name ++ switches ++ operands

def usage (s : Synopsis) : Text :=
  let positional := match s.operands with
    | .optional name help => "\nPositional Arguments:\n".toList ++ Usage.item name help
    | _ => []
  let switches := s.switches.flatMap fun o => Usage.item (o.short ++ ", ".toList ++ o.long) o.help
  let help := Usage.item "--help, help".toList "display usage information".toList
  s.usageLine.line ++ '\n' :: s.description.line ++ positional ++ "\nOptions:\n".toList ++
    switches ++ help

end Synopsis
end LineShell
