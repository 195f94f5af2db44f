import LineShell.Text.Utf8
import LineShell.Word

/-! Reading a byte stream line by line. -/
namespace LineShell

structure Reader where
  /-- What has not been read yet. -/
  input : Bytes
  /-- Raised by an interrupt, and lowered by the next read. -/
  interrupted : Bool := false
  deriving DecidableEq, Repr

namespace Reader

/-- The text of a line that was read: without its newline and its comment. -/
def lineText (line : Bytes) : Text := Text.stripComment (Utf8.decode (line.takeWhile (· != 0x0A)))

/-- The line without its newline and its comment; none at the end of the stream. An interrupt that
came while a command ran is not meant for the read after it. -/
def readLine (r : Reader) : Option Text × Reader :=
  match r.input with
  | [] => (none, { r with interrupted := false })
  | input =>
    (some (lineText input), ⟨(input.dropWhile (· != 0x0A)).tail, false⟩)

theorem readLine_lt {r r' : Reader} {line : Text} (h : r.readLine = (some line, r')) :
    r'.input.length < r.input.length := by
  unfold readLine at h
  split at h
  · simp at h
  case h_2 input hne =>
    obtain ⟨-, rfl⟩ := by simpa using h
    rw [List.length_tail]
    have hle := (List.dropWhile_sublist (l := r.input) (· != 0x0A)).length_le
    have hpos : 0 < r.input.length := List.length_pos_iff.2 hne
    omega

def raise (r : Reader) : Reader := { r with interrupted := true }

/-- Whether an interrupt came since the last call or read. -/
def take (r : Reader) : Bool × Reader := (r.interrupted, { r with interrupted := false })

/-- Nobody waits for a prompt at the other end of a stream. -/
def isInteractive (_ : Reader) : Bool := false

def lines (r : Reader) : List Text :=
  match h : r.readLine with
  | (none, _) => []
  | (some line, r') =>
    have := readLine_lt h
    line :: r'.lines
termination_by r.input.length

end Reader
end LineShell
