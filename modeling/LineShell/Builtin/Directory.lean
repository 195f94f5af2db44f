import LineShell.Builtin.Basic

/-! `cd` changes the directory that commands run in. -/
namespace LineShell

/-- Moves to a directory; the variables `OLDPWD` and `PWD` tell where from and where to. -/
def Session.moveTo (s : Session) (there : Path) : Session :=
  { s with
    env := (s.env.set "OLDPWD".toList s.directory.text).set "PWD".toList there.text
    directory := there }

/-- The directory that a target leads to, without links or dots in its path. -/
def Shell.canonical? (sh : Shell) (target : Text) : Option Path :=
  let path := sh.session.directory.join (.ofText target)
  (sh.host.files.canonical? sh.host.directory path).map Path.ofNames

namespace Builtin

inductive Destination
  | target (t : Text)
  /-- The directory before the last move; it is printed on the way. -/
  | previous (t : Text)
  /-- Nowhere: there is no directory before. The current one is printed. -/
  | stay
  | noHome
  deriving DecidableEq, Repr

/-- Without a target, or with an empty one, the home directory is meant. -/
def destination (s : Session) (operands : List Text) : Destination :=
  let home := match s.env.get? "HOME".toList with
    | some home => .target home
    | none => .noHome
  match operands with
  | [] | [] :: _ => home
  | ['-'] :: _ =>
    match s.env.get? "OLDPWD".toList with
    | some old => .previous old
    | none => .stay
  | t :: _ => .target t

/-- Moves to a target and goes on from there. -/
def moveTo (target : Text) (andThen : Command) : Command := fun sh =>
  match sh.canonical? target with
  | none => (.error (.usage 2 ("can't cd to ".toList ++ target)), sh)
  | some there => andThen { sh with session := sh.session.moveTo there }

def printDirectory : Command := fun sh => Shell.print sh.session.directory.text.line sh

def runCd (operands : List Text) : Command := fun sh =>
  match destination sh.session operands with
  | .noHome => (.error (.usage 2 "HOME not set".toList), sh)
  | .stay => printDirectory sh
  | .target t => moveTo t (fun sh => (.ok 0, sh)) sh
  | .previous t => moveTo t printDirectory sh

def cd : Builtin where
  synopsis :=
    { name := "cd".toList
      description :=
        ("Change the current working directory. If no target is provided, changes to the " ++
          "directory specified by the HOME environment variable.").toList
      operands := .optional "target".toList
        ("directory to switch to; `-` returns to the previous directory. Defaults to $HOME " ++
          "when omitted.").toList }
  literal := true
  execute := runCd

end Builtin
end LineShell
