import LineShell.Host.Script.Builtin.Basic

/-! `read` takes a line off the input and cuts it into variables. -/
namespace LineShell.Script.Builtin

/-- Takes the characters of a line one by one, as long as it is joined to the next by a backslash;
also says whether a newline came. Characters behind a backslash are `quoted`. -/
def takeLine (escapes : Bool) : Nat → Bool → List Mark → Step (List Mark × Bool)
  | 0, _, line => return (line.reverse, false)
  | n + 1, escaped, line => do
    match ← Step.perform (.pull 0 1) with
    | .error _ | .ok [] => return (line.reverse, false)
    | .ok (c :: _) =>
      if c = '\x00' then takeLine escapes n escaped line
      else if escaped then
        takeLine escapes n false (if c = '\n' then line else ⟨c, true⟩ :: line)
      else if escapes ∧ c = '\\' then takeLine escapes n true line
      else if c = '\n' then return (line.reverse, true)
      else takeLine escapes n false (⟨c, false⟩ :: line)

def isSeparator (separators : Text) (m : Mark) : Bool := !m.quoted && separators.contains m.char

/-- Whether a character is white space between fields. -/
def isBlankSeparator (separators : Text) (m : Mark) : Bool :=
  isSeparator separators m && [' ', '\t', '\n'].contains m.char

/-- The last field is what is left of the line, without white space at its end. A separator behind
it goes too, if it is the only one. -/
def lastField (separators : Text) (line : List Mark) : Text :=
  let strip (line : List Mark) := (line.reverse.dropWhile (isBlankSeparator separators)).reverse
  let line := strip line
  match line.getLast? with
  | some m =>
    if isSeparator separators m then
      let before := strip line.dropLast
      if before.any (isSeparator separators) then Pattern.text line else Pattern.text before
    else Pattern.text line
  | none => []

def cutFields (separators : Text) : Nat → List Mark → List Text
  | 0, _ => []
  | 1, line => [lastField separators (line.dropWhile (isBlankSeparator separators))]
  | n + 2, line =>
    let line := line.dropWhile (isBlankSeparator separators)
    let field := line.takeWhile (!isSeparator separators ·)
    let rest := (line.drop field.length).dropWhile (isBlankSeparator separators)
    let rest := match rest with
      | m :: behind => if isSeparator separators m then behind else rest
      | [] => []
    Pattern.text field :: cutFields separators (n + 1) rest

/-- Reads a line and puts its fields into variables. -/
def readVariables (arguments : List Text) : Step Nat := do
  let (found, names) ← readOptions ['r'] ['p'] 100 arguments
  if names = [] then Step.fail "arg count".toList
  else
    let (line, ended) ← takeLine (!found.any (·.1 == 'r')) 10000000 false []
    let fields := cutFields (← get).separators names.length line
    for (name, field) in names.zip fields do
      if isName name then Step.assign name field
      else Step.fail (name ++ ": bad variable name".toList)
    return if ended then 0 else 1

end LineShell.Script.Builtin
