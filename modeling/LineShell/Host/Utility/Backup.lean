import LineShell.Host.Utility.Directories

/-! Keeping what is about to be replaced under another name. -/
namespace LineShell.Utility

structure Backup where
  /-- Whether a number is part of the name: always, never, or where there is such a backup. -/
  numbered : Option Bool := some false
  suffix : Text := ['~']

namespace Backup

/-- The backups that options ask for: the option `b` with a method as its value, and `S` with a
suffix. -/
def ofOptions (g : Given) : Tool (Option Backup) := do
  if !(g.has 'b' ∨ g.has 'S') then return none
  let p ← Tool.process
  let named := (g.value? 'b').filter (!·.isEmpty)
  let method := String.ofList ((named <|> p.value? "VERSION_CONTROL".toList).getD [])
  let suffix := (g.value? 'S' <|> p.value? "SIMPLE_BACKUP_SUFFIX".toList).getD ['~']
  match method with
  | "none" | "off" => return none
  | "simple" | "never" => return some { suffix }
  | "numbered" | "t" => return some { numbered := some true, suffix }
  | _ => return some { numbered := none, suffix }

/-- The numbers of the backups of a name among other names. -/
def numbers (name : Text) (names : List Text) : List Nat :=
  names.filterMap fun t =>
    let front := name ++ ".~".toList
    if front.isPrefixOf t ∧ t.getLast? = some '~' then
      Text.natural? (t.drop front.length).dropLast
    else none

/-- The name for the backup of a file, with the names around it given. -/
def nameFor (b : Backup) (name : Text) (names : List Text) : Text :=
  let known := numbers (lastName name) names
  let next := known.max?.getD 0 + 1
  if b.numbered.getD (!known.isEmpty) then name ++ ".~".toList ++ Text.decimal next ++ ['~']
  else name ++ b.suffix

/-- Moves what stands at a location to the name of its backup, which comes back. -/
def make (b : Backup) (name : Text) (location : Location) : Tool (Except IoError Text) := do
  let v ← Tool.view
  let around := (v.files.root.at? location.dropLast).elim [] Node.children
  let new := b.nameFor name (around.map (·.1))
  match v.files.root.at? location with
  | none => return .ok new
  | some node =>
    let target := location.dropLast ++ [lastName new]
    match ← Tool.change fun files _ =>
      if files.mayChange location then .ok ((files.erase location).put target node)
      else .error (.os .accessDenied) with
    | none => return .ok new
    | some cause => return .error cause

end Backup
end LineShell.Utility
