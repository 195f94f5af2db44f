import LineShell.Builtin.Basic

/-! `alias` defines, removes and shows aliases. -/
namespace LineShell

def formatAlias (name value : Text) : Text := name ++ "='".toList ++ value ++ ['\'']

namespace Builtin

/-- The text without one pair of equal quotes around it. A quote that stands alone is kept. -/
def unquote (t : Text) : Text :=
  match Text.unwrap? '\'' '\'' t with
  | some inner => inner
  | none => (Text.unwrap? '"' '"' t).getD t

/-- What `alias` is asked to do. An empty value asks to remove the alias. -/
inductive AliasRequest
  | define (name value : Text)
  | query (name : Text)
  deriving DecidableEq, Repr

/-- Operands without `=` go on with the value of the definition before them. -/
def continuesValue (operand : Text) : Bool := !operand.contains '='

/-- Reads the operands of `alias`. An operand with `=` in it begins a definition, and those without
one that follow it continue its value; before the first definition an operand names an alias. -/
def aliasRequests : List Text → List AliasRequest
  | [] => []
  | operand :: rest =>
    match Text.cut? '=' operand with
    | none => .query operand :: aliasRequests rest
    | some (name, value) =>
      have := (List.dropWhile_sublist (l := rest) continuesValue).length_le
      .define name (unquote (Text.joined [' '] (value :: rest.takeWhile continuesValue))) ::
        aliasRequests (rest.dropWhile continuesValue)
termination_by operands => operands.length

def runRequest (request : AliasRequest) : Command := fun sh =>
  let aliases := sh.session.aliases
  match request with
  | .define [] _ | .query [] => Shell.complain "alias".toList "invalid alias name".toList 1 sh
  | .define name [] => (.ok 0, { sh with session.aliases := aliases.unset name })
  | .define name value => (.ok 0, { sh with session.aliases := aliases.set name value })
  | .query name =>
    match aliases.get? name with
    | some value => Shell.print (formatAlias name value).line sh
    | none => Shell.complain "alias".toList (name ++ " not found".toList) 1 sh

/-- Carries out requests in order, and ends with 1 if one of them fails. -/
def runRequests (status : Status) : List AliasRequest → Command
  | [], sh => (.ok status, sh)
  | request :: rest, sh =>
    match runRequest request sh with
    | (.ok 0, sh) => runRequests status rest sh
    | (.ok failed, sh) => runRequests failed rest sh
    | (.error fault, sh) => (.error fault, sh)

def runAlias (operands : List Text) : Command := fun sh =>
  match operands with
  | [] =>
    Shell.printLines (sh.session.aliases.pairs.map fun (name, value) => formatAlias name value) sh
  | operands => runRequests 0 (aliasRequests operands) sh

def aliases : Builtin where
  synopsis :=
    { name := "alias".toList
      description := "Define or show aliases. Without operands, list every alias.".toList
      operands := .rest "args".toList }
  literal := true
  execute := runAlias

end Builtin
end LineShell
