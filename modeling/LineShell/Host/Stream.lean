import LineShell.Text.Basic

/-! Streams: bytes on their way from those who write them to those who read them. -/
namespace LineShell

inductive StreamKind
  /-- Processes only. A pipe holds so many bytes and no more. -/
  | pipe
  /-- Keys are typed at one end. A read takes no more than one line. -/
  | terminal
  /-- Somebody outside takes whatever is written. -/
  | outlet
  deriving DecidableEq, Repr

/-- Bytes in pieces, as they have been written. -/
structure Stream where
  kind : StreamKind := .pipe
  /-- The pieces in the order in which they are read. -/
  ready : List Bytes := []
  /-- Pieces behind those, last first. -/
  fresh : List Bytes := []
  /-- How many bytes all pieces have. -/
  size : Nat := 0
  /-- How often it has been opened for reading. -/
  readersEver : Nat := 0
  /-- How often it has been opened for writing. -/
  writersEver : Nat := 0

namespace Stream

def capacity : Nat := 65536

/-- A stream of pieces that are there from the start. -/
def ofPieces (kind : StreamKind) (pieces : List Bytes) : Stream :=
  { kind, ready := pieces, size := sumOf (pieces.map List.length) }

def pieces (s : Stream) : List Bytes := s.ready ++ s.fresh.reverse

def room (s : Stream) : Nat :=
  match s.kind with
  | .pipe => capacity - s.size
  | _ => capacity

def push (s : Stream) (bytes : Bytes) : Stream :=
  if bytes = [] then s else { s with fresh := bytes :: s.fresh, size := s.size + bytes.length }

/-- Takes at most `limit` bytes of a list of pieces: the pieces taken, last first, and those left.
-/
def takePieces : Nat → List Bytes → List Bytes → List Bytes × List Bytes
  | _, taken, [] => (taken, [])
  | limit, taken, piece :: rest =>
    if limit = 0 then (taken, piece :: rest)
    else
      match piece.drop limit with
      | [] => takePieces (limit - piece.length) (piece :: taken) rest
      | left => (piece.take limit :: taken, left :: rest)

/-- Takes at most `limit` bytes. At a terminal they come from one line, and an empty piece is the
end of the input. -/
def pull (s : Stream) (limit : Nat) : Bytes × Stream :=
  match s.kind, s.pieces with
  | .terminal, [] => ([], { s with ready := [], fresh := [], size := 0 })
  | .terminal, piece :: rest =>
    match piece.drop limit with
    | [] => (piece, { s with ready := rest, fresh := [], size := s.size - piece.length })
    | left => (piece.take limit,
        { s with ready := left :: rest, fresh := [], size := s.size - limit })
  | _, pieces =>
    let (taken, left) := takePieces limit [] pieces
    let bytes := taken.reverse.flatten
    (bytes, { s with ready := left, fresh := [], size := s.size - bytes.length })

end Stream
end LineShell
