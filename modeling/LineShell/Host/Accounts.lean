import LineShell.Host.Access

/-! The users and groups that files tell of, a line of fields for each. -/
namespace LineShell

/-- A user: a name, a number, the number of a group, and a home directory. -/
structure Account where
  name : Text
  number : Nat
  group : Nat
  home : Text := []

/-- A group: a name, a number, and the users that are in it beside those it is the first group
of. -/
structure Circle where
  name : Text
  number : Nat
  members : List Text := []

namespace Account

def ofLine? (line : Text) : Option Account :=
  match splitWhere (· == ':') line with
  | name :: _ :: number :: group :: rest =>
    match Text.natural? number, Text.natural? group with
    | some number, some group => some { name, number, group, home := rest[1]?.getD [] }
    | _, _ => none
  | _ => none

end Account

namespace Circle

def ofLine? (line : Text) : Option Circle :=
  match splitWhere (· == ':') line with
  | name :: _ :: number :: rest =>
    (Text.natural? number).map fun number =>
      { name, number, members := (splitWhere (· == ',') (rest.headD [])).filter (· ≠ []) }
  | _ => none

end Circle

namespace View

/-- The lines of a file; none if there is no such file. -/
def linesOf (v : View) (path : String) : List Text :=
  match v.node? path.toList with
  | some (.file id) => splitWhere (· == '\n') (Text.ofBytes (v.files.inode id).content)
  | _ => []

def accounts (v : View) : List Account := (v.linesOf "/etc/passwd").filterMap Account.ofLine?

def circles (v : View) : List Circle := (v.linesOf "/etc/group").filterMap Circle.ofLine?

def homeOf? (v : View) (user : Text) : Option Text :=
  (v.accounts.find? (·.name == user)).map Account.home

/-- The name of the user of a number, or the number where there is none. -/
def userName (v : View) (number : Nat) : Text :=
  ((v.accounts.find? (·.number == number)).map Account.name).getD (Text.decimal number)

/-- The name of the group of a number, or the number where there is none. -/
def groupName (v : View) (number : Nat) : Text :=
  ((v.circles.find? (·.number == number)).map Circle.name).getD (Text.decimal number)

/-- The numbers of the groups that a user is in, the first one in front. -/
def groupsOf (v : View) (a : Account) : List Nat :=
  a.group :: ((v.circles.filter fun c => c.members.contains a.name && c.number != a.group).map
    Circle.number)

end View
end LineShell
