import LineShell.Host.Utility.Records.Value

/-! Values put into a format. -/
namespace LineShell.Records

/-- What is wrong with a format and the values for it. -/
inductive FormatFault
  | tooFewValues
  /-- The directive of this number is none. -/
  | unknown (number : Nat)
  deriving DecidableEq

/-- A number as an integer that is printed: one that a word with a sign cannot hold is cut off. -/
def printedInt : Quantity → Int
  | .undefined _ => -(Int.pow 2 63)
  | q =>
    let n := q.toIntWithin (-(Int.pow 2 64)) (Int.pow 2 64 - 1)
    if n < -(Int.pow 2 63) then -(Int.pow 2 63 - 1) else n

def printedWord (q : Quantity) : Nat := (printedInt q % Int.pow 2 64).toNat

def showChar (d : Directive) (v : Value) : Text :=
  match v.settled with
  | .text (c :: _) => d.text [c]
  | .number q =>
    { d with precision := none }.text
      [Char.ofNat (q.toIntWithin (-(Int.pow 2 31)) (Int.pow 2 31 - 1) % 256).toNat]
  | _ => { d with precision := none }.text ['\x00']

/-- A number in the format in which numbers are written that are not whole. -/
def writeNumber (format : Text) (q : Quantity) : Text :=
  let plain (c : Char) : Bool := c != '%'
  let front := format.takeWhile plain
  match format.drop front.length with
  | _ :: rest =>
    let flags := rest.takeWhile "-+ #0".toList.contains
    let rest := rest.drop flags.length
    let width := rest.takeWhile Char.isDigit
    let rest := rest.drop width.length
    let (precision, rest) := match rest with
      | '.' :: more =>
        let digits := more.takeWhile Char.isDigit
        (some ((Text.natural? digits).getD 0), more.drop digits.length)
      | _ => (none, rest)
    let d : Directive := { flags, width := (Text.natural? width).getD 0, precision }
    match rest with
    | letter :: rest =>
      if "eEfgG".toList.contains letter then front ++ d.quantity .double letter q ++ rest
      else if letter = 'd' ∨ letter = 'i' then front ++ d.signed (printedInt q) ++ rest
      else if "oxXu".toList.contains letter then
        front ++ d.unsigned letter (printedWord q) ++ rest
      else format
    | [] => format
  | [] => format

/-- What is left to be done of a format. -/
structure Formatting where
  values : List Value
  /-- How many directives there have been. -/
  number : Nat := 0

def Formatting.take (f : Formatting) : Except FormatFault (Value × Formatting) :=
  match f.values with
  | v :: values => .ok (v, { f with values })
  | [] => .error .tooFewValues

/-- Takes digits, or a value in their place for a star. -/
def Formatting.takeCount (f : Formatting) (t : Text) :
    Except FormatFault (Option Int × Text × Formatting) :=
  match t with
  | '*' :: rest => do
    let (v, f) ← f.take
    return (some (v.toNumber.toIntWithin (-(Int.pow 2 31)) (Int.pow 2 31 - 1)), rest, f)
  | _ =>
    let digits := t.takeWhile Char.isDigit
    .ok ((Text.natural? digits).map Int.ofNat, t.drop digits.length, f)

/-- Shows the next value as a directive behind its `%` says, and gives what follows that. -/
def Formatting.show (write : Quantity → Text) (f : Formatting) (t : Text) :
    Except FormatFault (Text × Text × Formatting) := do
  let flags := t.takeWhile "-+ #0'".toList.contains
  let (width, rest, f) ← f.takeCount (t.drop flags.length)
  let (precision, rest, f) ← match rest with
    | '.' :: rest => do
      let (n, rest, f) ← f.takeCount rest
      pure (some (n.getD 0), rest, f)
    | _ => pure (none, rest, f)
  let rest := rest.dropWhile fun c => c == 'h' || c == 'l'
  let number := f.number + 1
  let (v, f) ← { f with number }.take
  let width := width.getD 0
  let d : Directive :=
    { flags := if width < 0 then '-' :: flags else flags, width := width.natAbs
      precision := precision.bind fun n => if n < 0 then none else some n.toNat }
  let (letter, rest) ← match rest with
    | letter :: rest => pure (letter, rest)
    | [] => throw (.unknown number)
  let shown ←
    if letter = 's' then pure (d.text (v.toText write))
    else if letter = 'c' then pure (showChar d v)
    else if letter = 'd' ∨ letter = 'i' then pure (d.signed (printedInt v.toNumber))
    else if "oxXu".toList.contains letter then pure (d.unsigned letter (printedWord v.toNumber))
    else if "eEfgG".toList.contains letter then pure (d.quantity .double letter v.toNumber)
    else throw (.unknown number)
  return (shown, rest, f)

/-- Puts values into a format, as far as it comes; `write` writes numbers that are not whole. -/
def fill (write : Quantity → Text) : Nat → Text → Formatting → Text → Text × Option FormatFault
  | 0, _, _, found => (found, none)
  | _ + 1, [], _, found => (found, none)
  | fuel + 1, '%' :: '%' :: rest, f, found => fill write fuel rest f (found ++ ['%'])
  | fuel + 1, '%' :: rest, f, found =>
    match f.show write rest with
    | .ok (shown, rest, f) => fill write fuel rest f (found ++ shown)
    | .error fault => (found, some fault)
  | fuel + 1, t, f, found =>
    let front := t.takeWhile (· != '%')
    fill write fuel (t.drop front.length) f (found ++ front)

/-- The values in a format, of which each is for one directive, and what is wrong behind that. -/
def format (write : Quantity → Text) (t : Text) (values : List Value) : Text × Option FormatFault :=
  fill write (t.length + 1) t { values } []

end LineShell.Records
