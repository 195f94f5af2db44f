import LineShell.Text.Basic

/-! What a terminal makes of the bytes that are typed: lines, as far as they are not taken back. -/
namespace LineShell.Typing

/-- Lines are at most this many bytes long; what is typed behind them is lost. -/
def lineLimit : Nat := 4095

/-- What a terminal has taken from the keys. -/
structure Typed where
  /-- What programs can read, last first. An empty piece ends the input for one of them. -/
  pieces : List Bytes := []
  /-- The line so far, last byte first. -/
  line : Bytes := []
  /-- The next byte means nothing but itself. -/
  literal : Bool := false

/-- Whether a byte is part of a word to be taken back. -/
def isWordByte (b : UInt8) : Bool :=
  (Char.ofNat b.toNat).isAlphanum || b == 0x5F || (0xC0 ≤ b && b != 0xD7 && b != 0xF7)

namespace Typed

def put (t : Typed) (b : UInt8) : Typed :=
  if lineLimit ≤ t.line.length then { t with literal := false }
  else { t with line := b :: t.line, literal := false }

def send (t : Typed) (line : Bytes) : Typed :=
  { t with pieces := line.reverse :: t.pieces, line := [] }

/-- A newline ends a line, and `^D` hands over what there is. The line is taken back by `^U`, its
last word by `^W` and its last byte by DEL. Behind `^V` no byte does any of that. -/
def type (t : Typed) (b : UInt8) : Typed :=
  if t.literal then t.put b
  else
    match b.toNat with
    | 0x0A => t.send (b :: t.line)
    | 0x04 => t.send t.line
    | 0x15 => { t with line := [] }
    | 0x17 => { t with line := (t.line.dropWhile (!isWordByte ·)).dropWhile isWordByte }
    | 0x7F => { t with line := t.line.tail }
    | 0x16 => { t with literal := true }
    | _ => t.put b

end Typed

/-- The pieces that programs can read, up to the end of the input behind the last one. -/
def pieces (input : Bytes) : List Bytes :=
  let t := input.foldl Typed.type {}
  (if t.line = [] then t.pieces else (t.send t.line).pieces).reverse

end LineShell.Typing
