import LineShell.Synopsis

/-! Reading arguments as a synopsis allows them. -/
namespace LineShell

structure Arguments where
  /-- The values of options, by the long names of these. -/
  values : List (Text × Text) := []
  operands : List Text := []
  deriving DecidableEq, Repr

/-- What a command answers to its arguments instead of running. -/
inductive Refusal
  /-- Help was asked for. -/
  | help
  | trailing
  | unrecognized (argument : Text)
  | valueMissing (option : Text)
  | repeated (option value : Text)
  deriving DecidableEq, Repr

namespace Refusal

def isError : Refusal → Bool
  | .help => false
  | _ => true

def message (s : Synopsis) : Refusal → Text
  | .help => s.usage
  | .trailing => "Trailing arguments are not allowed after `help`.".toList
  | .unrecognized argument => "Unrecognized argument: ".toList ++ argument.line
  | .valueMissing option => "No value provided for option '".toList ++ option ++ "'.\n".toList
  | .repeated option value =>
    "Error parsing option '".toList ++ option ++ "' with value '".toList ++ value ++
      "': duplicate values provided\n".toList

end Refusal

namespace Synopsis

def asksForHelp (argument : Text) : Bool :=
  argument == "--help".toList || argument == "help".toList

def switch? (s : Synopsis) (argument : Text) : Option Switch :=
  s.switches.find? fun o => o.short == argument || o.long == argument

/-- Reads arguments from left to right, after those in `given`. `help` says that help was asked for,
and `ended` that nothing more is an option. -/
def read (s : Synopsis) (help ended : Bool) (given : Arguments) :
    List Text → Except Refusal Arguments
  | [] => if help then .error .help else .ok given
  | argument :: rest =>
    if !ended && asksForHelp argument then s.read true ended given rest
    else if !ended && argument == ['-', '-'] then s.read help true given rest
    else if !ended && argument.head? == some '-' then
      if help then .error .trailing
      else
        match s.switch? argument, rest with
        | none, _ => .error (.unrecognized argument)
        | some _, [] => .error (.valueMissing argument)
        | some o, value :: rest =>
          if (given.values.lookup o.long).isSome then .error (.repeated argument value)
          else s.read help ended { given with values := given.values ++ [(o.long, value)] } rest
    else
      match s.operands with
      | .none => .error (.unrecognized argument)
      | .optional .. =>
        if given.operands = [] then
          s.read help ended { given with operands := [argument] } rest
        else .error (.unrecognized argument)
      | .rest _ => s.read help true { given with operands := given.operands ++ [argument] } rest

def parse (s : Synopsis) (arguments : List Text) : Except Refusal Arguments :=
  s.read false false {} arguments

end Synopsis
end LineShell
