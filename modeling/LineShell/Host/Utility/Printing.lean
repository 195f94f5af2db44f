import LineShell.Host.Utility.Words

/-! `printf`: arguments written as a format says. -/
namespace LineShell.Utility

/-- A program that prints a format. The arguments that have not been used are its state. -/
abbrev Printer := StateT (List Text) Tool

namespace Printer

def act {α : Type} (tool : Tool α) : Printer α := tool

def next : Printer Text := modifyGet fun arguments => (arguments.headD [], arguments.tail)

def blame (argument : Text) (what : String) : Printer Unit :=
  act (Tool.blame 1 (quotePlainly argument ++ ": ".toList ++ what.toList))

/-- The number of the character behind a quote, if the argument is one. -/
def character? (t : Text) : Printer (Option Nat) := do
  match t with
  | quote :: c :: rest =>
    if quote ≠ '\'' ∧ quote ≠ '"' then return none
    if rest ≠ [] then
      act (Tool.complain ("warning: ".toList ++ rest ++
        ": character(s) following character constant have been ignored".toList))
    return some c.toNat
  | _ => return none

/-- The whole number that an argument stands for, held to a range. -/
def integer (low high : Int) : Printer Int := do
  let t ← next
  match ← character? t with
  | some n => return n
  | none =>
    match Script.Arithmetic.readSigned t with
    | none =>
      if t ≠ [] then blame t "expected a numeric value"
      return 0
    | some (i, rest) =>
      if i < low ∨ high < i then blame t "Numerical result out of range"
      else if rest ≠ [] then blame t "value not completely converted"
      return max low (min high i)

def quantity : Printer Quantity := do
  let t ← next
  match ← character? t with
  | some n => return .ofInt .extended n
  | none =>
    match Quantity.read .extended t with
    | none =>
      if t ≠ [] then blame t "expected a numeric value"
      return .finite false 0
    | some r =>
      if r.isOutOfRange then blame t "Numerical result out of range"
      else if r.rest ≠ [] then blame t "value not completely converted"
      return r.quantity

/-- The least and the greatest number that may be a width. -/
def sizeBounds : Int × Int := (-2147483648, 2147483647)

/-- A width or a precision at the front of a text, and what follows. -/
def size (what : String) (t : Text) : Printer (Option Int × Text) := do
  match t with
  | '*' :: rest =>
    let shown := (← get).headD []
    let i ← integer (-9223372036854775808) 9223372036854775807
    if i < sizeBounds.1 ∨ sizeBounds.2 < i then
      act (Tool.refuse 1 (("invalid " ++ what ++ ": ").toList ++ quotePlainly shown))
    return (some i, rest)
  | t =>
    let digits := t.takeWhile Char.isDigit
    return ((Text.natural? digits).map Int.ofNat, t.drop digits.length)

/-- How a character with a number of Unicode is printed: bytes have no other characters than those
of ASCII, and the rest stay escapes. -/
def unicode (letter : Char) (n : Nat) : Tool Text := do
  let filled (places : Nat) (digits : Text) : Text :=
    List.replicate (places - digits.length) '0' ++ digits
  let digits := Nat.toDigits 16 n
  if 0xd800 ≤ n ∧ n ≤ 0xdfff then
    Tool.refuse 1 ("invalid universal character name ".toList ++ '\\' :: letter ::
      filled (if letter = 'u' then 4 else 8) digits)
  if n < 0x80 then return [Char.ofNat n]
  let digits := digits.map Char.toUpper
  return '\\' :: (if n < 0x10000 then 'u' :: filled 4 digits else 'U' :: filled 8 digits)

/-- What a backslash in front of a text stands for, and what is left of the text. An octal number
may have a zero in front of its three digits if `zero` says so. -/
def escape (zero : Bool) (t : Text) : Tool (Text × Text) := do
  let missing {α : Type} : Tool α :=
    Tool.refuse 1 "missing hexadecimal number in escape".toList
  let isHex (c : Char) : Bool := Quantity.digitValue c < 16
  match t with
  | [] => return (['\\'], [])
  | 'c' :: _ => Tool.stop 0
  | '"' :: rest => return (['"'], rest)
  | 'x' :: rest =>
    let digits := (rest.take 2).takeWhile isHex
    if digits = [] then missing
    return ([Char.ofNat (Quantity.digitsValue 16 digits)], rest.drop digits.length)
  | c :: rest =>
    if c = 'u' ∨ c = 'U' then
      let length := if c = 'u' then 4 else 8
      let digits := (rest.take length).takeWhile isHex
      if digits.length < length then missing
      return (← unicode c (Quantity.digitsValue 16 digits), rest.drop length)
    else
      match Script.Format.letterEscape? c with
      | some d => return ([d], rest)
      | none =>
        if !Script.Format.isOctal c then return (['\\', c], rest)
        let number := if zero ∧ c = '0' then rest else t
        let digits := (number.take 3).takeWhile Script.Format.isOctal
        return ([Script.Format.octalByte digits], number.drop digits.length)

/-- Prints a text with its escapes carried out; `fuel` bounds its length. -/
def printEscaped : Nat → Text → Tool Unit
  | 0, _ => return ()
  | fuel + 1, t => do
    let plain := t.takeWhile (· != '\\')
    Tool.print plain
    match t.drop plain.length with
    | [] => return ()
    | _ :: rest =>
      let (shown, rest) ← escape true rest
      Tool.print shown
      printEscaped fuel rest

/-- The letters that a directive with these flags may end in. -/
def allowed (flags : Text) (precise : Bool) : Text :=
  let without (flag : Char) (bad : String) (letters : Text) : Text :=
    if flags.contains flag then letters.filter (!bad.toList.contains ·) else letters
  let letters := without '\'' "aAceEosxX" <| without 'I' "aAceEosxX" <| without '#' "cdisu" <|
    without '0' "cs" "aAcdeEfFgGiosuxX".toList
  if precise then letters.filter (· ≠ 'c') else letters

def converted (d : Directive) (letter : Char) : Printer Text := do
  match letter with
  | 'd' | 'i' => return d.signed (← integer (-9223372036854775808) 9223372036854775807)
  | 'o' | 'u' | 'x' | 'X' =>
    let i ← integer (-18446744073709551615) 18446744073709551615
    return d.unsigned letter (i % 18446744073709551616).toNat
  | 'c' => return d.pad [(← next).headD '\x00']
  | 's' => return d.text (← next)
  | _ => return d.quantity .extended letter (← quantity)

/-- Prints a directive, whose text behind the percent sign is given, and gives what follows it. -/
def directive (t : Text) : Printer Text := do
  let flags := t.takeWhile "'I-+ #0".toList.contains
  let (width, rest) ← size "field width" (t.drop flags.length)
  let (precision, rest, precise) ← match rest with
    | '.' :: rest => do
      let (precision, rest) ← size "precision" rest
      pure (some (precision.getD 0), rest, true)
    | rest => pure (none, rest, false)
  let rest := rest.dropWhile "lLhjtz".toList.contains
  let letter := rest.headD '\x00'
  if !(allowed flags precise).contains letter then
    let shown := t.take (t.length - rest.length + 1)
    act (Tool.refuse 1 ('%' :: shown ++ ": invalid conversion specification".toList))
  let width := width.getD 0
  let d : Directive :=
    { flags := if width < 0 then '-' :: flags else flags, width := width.natAbs
      precision := precision.bind fun i => if i < 0 then none else some i.toNat }
  act (Tool.print (← converted d letter))
  return rest.drop 1

/-- Prints a format once; `fuel` bounds its length. -/
def once : Nat → Text → Printer Unit
  | 0, _ => return ()
  | fuel + 1, t => do
    let plain := t.takeWhile fun c => c != '\\' && c != '%'
    act (Tool.print plain)
    match t.drop plain.length with
    | [] => return ()
    | '\\' :: rest =>
      let (shown, rest) ← act (escape false rest)
      act (Tool.print shown)
      once fuel rest
    | _ :: '%' :: rest =>
      act (Tool.print ['%'])
      once fuel rest
    | _ :: 'b' :: rest =>
      let t ← next
      act (printEscaped (t.length + 1) t)
      once fuel rest
    | _ :: 'q' :: rest =>
      if !(← get).isEmpty then act (Tool.print (quoteIfNeeded (← next)))
      once fuel rest
    | _ :: rest => once fuel (← directive rest)

/-- Prints a format as long as it uses arguments up, at most `fuel` times more. -/
def again (format : Text) : Nat → Printer Unit
  | 0 => return ()
  | fuel + 1 => do
    let before := (← get).length
    once (format.length + 1) format
    let after := (← get).length
    if after ≠ 0 ∧ after < before then again format fuel

end Printer

def printFormatted : Tool Nat := do
  let arguments := match ← Tool.arguments with
    | ['-', '-'] :: rest => rest
    | arguments => arguments
  match arguments with
  | [] => Tool.misuse 1 "missing operand".toList
  | format :: arguments =>
    let (_, left) ← StateT.run (Printer.again format (arguments.length + 1)) arguments
    match left with
    | [] => return 0
    | t :: _ =>
      Tool.complain
        ("warning: ignoring excess arguments, starting with ".toList ++ quotePlainly t)
      return 0

end LineShell.Utility
