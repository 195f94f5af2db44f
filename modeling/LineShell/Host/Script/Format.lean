import LineShell.Host.Number.Directive
import LineShell.Host.Script.Arithmetic

/-! What `echo` and `printf` write: backslash escapes and formats. -/
namespace LineShell.Script.Format

def isOctal (c : Char) : Bool := '0' ≤ c && c ≤ '7'

def octalByte (digits : Text) : Char :=
  Char.ofNat (digits.foldl (fun n c => n * 8 + (c.toNat - '0'.toNat)) 0 % 256)

/-- The characters that the letter behind a backslash stands for. -/
def letterEscape? : Char → Option Char
  | 'a' => some '\x07'
  | 'b' => some '\x08'
  | 'e' => some '\x1b'
  | 'f' => some '\x0c'
  | 'n' => some '\n'
  | 'r' => some '\r'
  | 't' => some '\t'
  | 'v' => some '\x0b'
  | '\\' => some '\\'
  | _ => none

/-- The character that a backslash in front of this text stands for, and how much of the text the
escape takes up. A backslash that begins no escape stands for itself. -/
def escape (t : Text) : Char × Nat :=
  match t with
  | [] => ('\\', 0)
  | c :: _ =>
    match letterEscape? c with
    | some d => (d, 1)
    | none =>
      match (t.take 3).takeWhile isOctal with
      | [] => ('\\', 0)
      | digits => (octalByte digits, digits.length)

/-- As `escape`; an octal escape may have a zero in front of its three digits. -/
def echoEscape (t : Text) : Char × Nat :=
  match t with
  | '0' :: d :: rest =>
    if isOctal d then
      let (c, n) := escape (d :: rest)
      (c, n + 1)
    else escape t
  | _ => escape t

/-- The text with its escapes carried out, and whether `\c` ends all output. What an escape stands
for, and how long it is, is for `read` to say. -/
def escaped (read : Text → Char × Nat) : Nat → Text → Text × Bool
  | 0, _ => ([], false)
  | _ + 1, [] => ([], false)
  | _ + 1, '\\' :: 'c' :: _ => ([], true)
  | n + 1, '\\' :: rest =>
    let (c, length) := read rest
    let (more, stop) := escaped read n (rest.drop length)
    (c :: more, stop)
  | n + 1, c :: rest =>
    let (more, stop) := escaped read n rest
    (c :: more, stop)

/-- A text with its escapes carried out, and whether `\c` ends all output. -/
def unescaped (t : Text) : Text × Bool := escaped echoEscape (t.length + 1) t

/-- Words with spaces between them and their escapes carried out. -/
def echoAll (read : Text → Char × Nat) : List Text → Text × Bool
  | [] => ([], false)
  | [t] => escaped read (t.length + 1) t
  | t :: rest =>
    match escaped read (t.length + 1) t with
    | (text, true) => (text, true)
    | (text, false) =>
      let (more, stop) := echoAll read rest
      (text ++ ' ' :: more, stop)

def echo (arguments : List Text) : Text :=
  let (ends, arguments) := match arguments with
    | ['-', 'n'] :: rest => (false, rest)
    | _ => (true, arguments)
  let (text, stop) := echoAll echoEscape arguments
  if ends && !stop then text.line else text

/-! ### Formats -/

structure Printed where
  /-- The text, last character first. -/
  reversed : Text := []
  arguments : List Text
  complaints : List Text := []
  /-- Nothing more is written, for this reason if there is one. -/
  stopped : Option (Option Text) := none

namespace Printed

def put (p : Printed) (t : Text) : Printed := { p with reversed := t.reverse ++ p.reversed }

def next (p : Printed) : Text × Printed :=
  (p.arguments.headD [], { p with arguments := p.arguments.tail })

def complain (p : Printed) (value : Text) (message : String) : Printed :=
  { p with complaints := p.complaints ++ [value ++ ": ".toList ++ message.toList] }

end Printed

/-- The number that an argument stands for, as far as it is one. -/
def integer (p : Printed) : Int × Printed :=
  match p.next with
  | ('\'' :: rest, p) | ('"' :: rest, p) => (((rest.headD '\x00').toNat : Int), p)
  | (t, p) =>
    match Arithmetic.readSigned t with
    | none => (0, if t = [] then p else p.complain t "expected numeric value")
    | some (value, []) => (value, p)
    | some (value, _) => (value, p.complain t "not completely converted")

def limited (low high : Int) (p : Printed) : Int × Printed :=
  let (value, q) := integer p
  if value < low then (low, q.complain p.next.1 "Numerical result out of range")
  else if high < value then (high, q.complain p.next.1 "Numerical result out of range")
  else (value, q)

/-- The number with a fraction that an argument stands for, as far as it is one. -/
def quantity (p : Printed) : Quantity × Printed :=
  let zero := Quantity.finite false 0
  match p.next with
  | ('\'' :: rest, p) | ('"' :: rest, p) => (.ofInt .double (rest.headD '\x00').toNat, p)
  | (t, p) =>
    match Quantity.read .double t with
    | none => (zero, if t = [] then p else p.complain t "expected numeric value")
    | some r =>
      (r.quantity,
        if r.rest ≠ [] then p.complain t "not completely converted"
        else if r.isOutOfRange then p.complain t "Numerical result out of range"
        else p)

def convert (d : Directive) (letter : Char) (p : Printed) : Option Printed :=
  match letter with
  | 'b' =>
    let (t, p) := p.next
    let (t, stop) := unescaped t
    let p := p.put (d.text t)
    some (if stop then { p with stopped := some none } else p)
  | 'c' =>
    let (t, p) := p.next
    some (p.put (d.pad [t.headD '\x00']))
  | 's' =>
    let (t, p) := p.next
    some (p.put (d.text t))
  | 'd' | 'i' =>
    let (value, p) := limited (-9223372036854775808) 9223372036854775807 p
    some (p.put (d.signed value))
  | 'o' | 'u' | 'x' | 'X' =>
    let (value, p) := limited (-18446744073709551615) 18446744073709551615 p
    some (p.put (d.unsigned letter (value % 18446744073709551616).toNat))
  | 'e' | 'E' | 'f' | 'F' | 'g' | 'G' | 'a' | 'A' =>
    let (q, p) := quantity p
    some (p.put (d.quantity .double letter q))
  | _ => none

/-- A width or a precision at the front: its value, the text behind it, and what is left. -/
def size (t : Text) (p : Printed) : Option Int × Text × Printed :=
  match t with
  | '*' :: rest =>
    let (value, p) := integer p
    (some value, rest, p)
  | _ =>
    let digits := t.takeWhile Char.isDigit
    ((Text.natural? digits).map Int.ofNat, t.drop digits.length, p)

def printOnce : Nat → Text → Printed → Printed
  | 0, _, p => p
  | _ + 1, [], p => p
  | n + 1, c :: rest, p =>
    if p.stopped.isSome then p
    else if c = '\\' then
      let (d, length) := escape rest
      printOnce n (rest.drop length) (p.put [d])
    else if c ≠ '%' then printOnce n rest (p.put [c])
    else
      match rest with
      | '%' :: rest => printOnce n rest (p.put ['%'])
      | _ =>
        let flags := rest.takeWhile "#-+ 0".toList.contains
        let (width, t, p) := size (rest.drop flags.length) p
        let (precision, t, p) := match t with
          | '.' :: t =>
            let (value, t, p) := size t p
            (some (value.getD 0), t, p)
          | _ => (none, t, p)
        let width := width.getD 0
        let d : Directive :=
          { flags := if width < 0 then '-' :: flags else flags, width := width.natAbs,
            precision := precision.bind fun i => if i < 0 then none else some i.toNat }
        match t with
        | [] => { p with stopped := some (some "missing format character".toList) }
        | letter :: behind =>
          match convert d letter p with
          | some p => printOnce n behind p
          | none =>
            let directive := '%' :: rest.take (rest.length - behind.length)
            let message := directive ++ ": invalid directive".toList
            { p with stopped := some (some message) }

/-- Writes a format until it leaves no argument or uses none, at most `fuel` times more. -/
def printAll (format : Text) : Nat → Printed → Printed
  | 0, p => p
  | fuel + 1, p =>
    let q := printOnce (format.length + 1) format p
    if q.stopped.isSome ∨ q.arguments = [] ∨ q.arguments.length = p.arguments.length then q
    else printAll format fuel q

/-- What `printf` writes: the format again and again until it has used every argument. -/
def printf (format : Text) (arguments : List Text) : Printed :=
  printAll format (arguments.length + 1) { arguments }

end LineShell.Script.Format
