import LineShell.Text.Basic

/-! File names in messages: in quotes, so that a shell would read them back as they are. -/
namespace LineShell.Utility

/-- Characters that mean the same in both kinds of quotes. -/
def isHarmless (first : Bool) (c : Char) : Bool :=
  c.isAlphanum || "%+,-./:]_ '".toList.contains c || (first && (c == '#' || c == '~'))

/-- Characters that a shell would not read as themselves outside quotes. -/
def needsQuotes (first alone : Bool) (c : Char) : Bool :=
  " !\"$&()*;<=>[^\x60|'?\\".toList.contains c || c.toNat < 32 || 126 < c.toNat ||
    (first && (c == '#' || c == '~')) || (alone && (c == '\x7b' || c == '\x7d'))

def isPrintable (c : Char) : Bool := 32 ≤ c.toNat && c.toNat < 127

/-- A character that cannot be printed, as an escape. -/
def escapeCode (c : Char) : Text :=
  match c with
  | '\x07' => ['\\', 'a']
  | '\x08' => ['\\', 'b']
  | '\x0c' => ['\\', 'f']
  | '\n' => ['\\', 'n']
  | '\r' => ['\\', 'r']
  | '\t' => ['\\', 't']
  | '\x0b' => ['\\', 'v']
  | c =>
    let digits := Nat.toDigits 8 c.toNat
    '\\' :: List.replicate (3 - digits.length) '0' ++ digits

/-- The text inside single quotes; `special` says that the characters before were escapes. -/
def quoteFrom (special : Bool) : Text → Text
  | [] => if special then ['\''] else []
  | c :: rest =>
    if isPrintable c then
      let front := if special then ['\'', '\''] else []
      let shown := if c = '\'' then "'\\''".toList else [c]
      front ++ shown ++ quoteFrom false rest
    else
      let front := if special then [] else "'$'".toList
      front ++ escapeCode c ++ quoteFrom true rest

/-- The name in quotes: in double ones if it holds a single one and nothing to be careful with. -/
def quote (t : Text) : Text :=
  let plain := (t.take 1).all (isHarmless true) && (t.drop 1).all (isHarmless false)
  if t.contains '\'' ∧ plain then '"' :: t ++ ['"']
  else
    let inner := quoteFrom false t
    if (t.getLast?).any (!isPrintable ·) then '\'' :: inner else '\'' :: inner ++ ['\'']

/-- The text in quotes as a programmer would write it. -/
def quotePlainly (t : Text) : Text :=
  let escaped (c : Char) : Text :=
    if c = '\'' ∨ c = '\\' then ['\\', c] else if isPrintable c then [c] else escapeCode c
  '\'' :: t.flatMap escaped ++ ['\'']

/-- The text with escapes for all that is not printed as it is. -/
def escapeName (t : Text) : Text :=
  t.flatMap fun c =>
    if c = '\\' ∨ c = ' ' then ['\\', c] else if isPrintable c then [c] else escapeCode c

def quoteDoubly (t : Text) : Text :=
  let escaped (c : Char) : Text :=
    if c = '"' ∨ c = '\\' then ['\\', c] else if isPrintable c then [c] else escapeCode c
  '"' :: t.flatMap escaped ++ ['"']

/-- The text in double quotes if it needs any; then a colon needs them too. -/
def quoteDoublyIfNeeded (t : Text) : Text :=
  if t.all fun c => isPrintable c && c != '"' && c != ':' then t else quoteDoubly t

def quoteIfNeeded (t : Text) : Text :=
  let alone := t.length == 1
  if t = [] then quote t
  else if (t.take 1).any (needsQuotes true alone) then quote t
  else if (t.drop 1).any (needsQuotes false false) then quote t
  else t

end LineShell.Utility
