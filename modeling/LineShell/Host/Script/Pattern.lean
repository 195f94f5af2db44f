import LineShell.Host.Script.Syntax

/-! Patterns of names: `*`, `?`, and sets of characters in square brackets. -/
namespace LineShell.Script

/-- A character of a pattern; one that was quoted matches nothing but itself. -/
structure Mark where
  char : Char
  quoted : Bool := false
  deriving DecidableEq

/-- A pattern, whose characters have their meaning where they are not quoted. -/
abbrev Pattern := List Mark

namespace Pattern

def ofText (t : Text) : Pattern := t.map fun c => { char := c }

def text (p : Pattern) : Text := p.map Mark.char

/-- Whether an unquoted character of a pattern is this one. -/
def isSign (m : Mark) (c : Char) : Bool := m.char == c && !m.quoted

def classNames : List Text :=
  ["alnum", "alpha", "blank", "cntrl", "digit", "graph", "lower", "print", "punct", "space", "upper",
    "xdigit"].map String.toList

def classOf (name : Text) (c : Char) : Bool :=
  match String.ofList name with
  | "alnum" => c.isAlphanum
  | "alpha" => c.isAlpha
  | "blank" => c == ' ' || c == '\t'
  | "cntrl" => c.toNat < 32 || c.toNat == 127
  | "digit" => c.isDigit
  | "graph" => 32 < c.toNat && c.toNat < 127
  | "lower" => c.isLower
  | "print" => 32 ≤ c.toNat && c.toNat < 127
  | "punct" => 32 < c.toNat && c.toNat < 127 && !c.isAlphanum
  | "space" => c == ' ' || (9 ≤ c.toNat && c.toNat ≤ 13)
  | "upper" => c.isUpper
  | "xdigit" => c.isDigit || ('a' ≤ c && c ≤ 'f') || ('A' ≤ c && c ≤ 'F')
  | _ => false

/-- The name of a class at the front of a pattern behind `[`, and the pattern behind it. -/
def className? (p : Pattern) : Option (Text × Pattern) :=
  match p with
  | ⟨':', _⟩ :: rest =>
    let name := rest.takeWhile fun m => m.char.isAlpha
    match rest.drop name.length with
    | ⟨':', _⟩ :: ⟨']', _⟩ :: behind => some (text name, behind)
    | _ => none
  | _ => none

/-- Whether the character is in the set whose members start here, and the pattern behind the set;
`none` where it is not closed. The first member may be a closing bracket. -/
def members (c : Char) : Nat → Bool → Bool → Pattern → Option (Bool × Pattern)
  | 0, _, _, _ => none
  | _ + 1, _, _, [] => none
  | n + 1, first, found, m :: rest =>
    if isSign m ']' ∧ !first then some (found, rest)
    else
      match (if isSign m '[' then className? rest else none) with
      | some (name, behind) => members c n false (found || classOf name c) behind
      | none =>
        match rest with
        | dash :: high :: behind =>
          if isSign dash '-' ∧ !isSign high ']' then
            members c n false (found || (m.char ≤ c && c ≤ high.char)) behind
          else members c n false (found || m.char == c) rest
        | _ => members c n false (found || m.char == c) rest

/-- Whether the character is in the set behind a bracket, and the pattern behind the set. -/
def set? (c : Char) (p : Pattern) : Option (Bool × Pattern) :=
  match p with
  | [] => none
  | m :: rest =>
    if isSign m '!' ∨ isSign m '^' then
      (members c (rest.length + 1) true false rest).map fun (found, behind) => (!found, behind)
    else members c (p.length + 1) true false p

/-- Whether a pattern matches a text as a whole. Each step takes a character of one or the other. -/
def matchesFrom : Nat → Pattern → Text → Bool
  | 0, _, _ => false
  | _ + 1, [], t => t.isEmpty
  | n + 1, m :: rest, t =>
    if isSign m '*' then
      matchesFrom n rest t ||
        (match t with
          | [] => false
          | _ :: t => matchesFrom n (m :: rest) t)
    else
      match t with
      | [] => false
      | c :: t =>
        if isSign m '?' then matchesFrom n rest t
        else
          match (if isSign m '[' then set? c rest else none) with
          | some (found, behind) => found && matchesFrom n behind t
          | none => m.char == c && matchesFrom n rest t

/-- A backslash that came out of an expansion takes the meaning of the character behind it. -/
def unescape : Pattern → Pattern
  | [] => []
  | m :: n :: rest =>
    if isSign m '\\' then { n with quoted := true } :: unescape rest else m :: unescape (n :: rest)
  | [m] => [m]

def covers (p : Pattern) (t : Text) : Bool :=
  matchesFrom (p.length + t.length + 1) p.unescape t

/-- Whether a pattern in which only backslashes quote matches a text. -/
def fits (pattern t : Text) : Bool := covers (pattern.map (⟨·, false⟩)) t

/-- Whether the pattern has a sign that may match more than itself. -/
def isActive (p : Pattern) : Bool := p.any fun m => !m.quoted && "*?[".toList.contains m.char

def coversFirst (p : Pattern) (t : Text) : Bool := p.covers (t.takeWhile (· != '\x00'))

/-- Takes off what the pattern matches at the front of a text, as much or as little as possible. A
NUL, which stands between arguments, ends what is matched. -/
def trimFront (p : Pattern) (longest : Bool) (t : Text) : Text :=
  let lengths := List.range (t.length + 1)
  let lengths := if longest then lengths.reverse else lengths
  match lengths.find? fun n => p.coversFirst (t.take n) with
  | some n => t.drop n
  | none => t

/-- As `trimFront`, for the end of a text. As much as possible is sought in the first argument. -/
def trimEnd (p : Pattern) (longest : Bool) (t : Text) : Text :=
  let first := t.takeWhile (· != '\x00')
  let lengths := if longest then List.range (first.length + 1)
    else (List.range (t.length + 1)).reverse
  match lengths.find? fun n => p.coversFirst (t.drop n) with
  | some n => t.take n
  | none => t

end Pattern
end LineShell.Script
