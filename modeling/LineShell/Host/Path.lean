import LineShell.Text.Octets

/-! Paths of files: joining, and the names a path is made of. -/
namespace LineShell

/-- A path names a file, from the root or from some directory. Each of its characters stands for a
byte. -/
structure Path where
  octets : Text
  deriving DecidableEq, Repr

instance : Inhabited Path := ⟨⟨['/']⟩⟩

namespace Path

def ofText (t : Text) : Path := ⟨t.toOctets⟩

def text (p : Path) : Text := p.octets.ofOctets

def isAbsolute (p : Path) : Bool := p.octets.head? == some '/'

/-- Puts `p` behind `base` with one `/` between them, unless `base` is empty or ends in one; an
absolute `p` stands for itself. Joining the empty path leaves a `/` at the end. -/
def join (base p : Path) : Path :=
  if p.isAbsolute then p
  else if base.octets.getLast?.any (· != '/') then ⟨base.octets ++ '/' :: p.octets⟩
  else ⟨base.octets ++ p.octets⟩

/-- The octets of a name behind those of a directory. -/
def within (directory name : Text) : Text := (join ⟨directory⟩ ⟨name⟩).octets

/-- What stands between the slashes; empty at a doubled slash and at either end. -/
def names (p : Path) : List Text := splitWhere (· == '/') p.octets

/-- The absolute path that goes through these names. -/
def ofNames (names : List Text) : Path :=
  match names with
  | [] => ⟨['/']⟩
  | _ => ⟨names.flatMap ('/' :: ·)⟩

end Path
end LineShell
