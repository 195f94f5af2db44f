import LineShell.Entries
import LineShell.Failure
import LineShell.Text.Utf8

/-!
The lines that were entered, numbered from 0, and the file that keeps them between sessions: plain
text with a line for each. Only the latest entries are kept.
-/
namespace LineShell

structure History where
  entries : Entries := {}
  nextTag : Nat := 0
  /-- The file that the history is saved to. -/
  path : Option Path := none
  deriving DecidableEq, Repr

namespace History

def capacity : Nat := 4096

def fileName : Text := ".simple_shell_history".toList

def pathIn (home : Text) : Path := (Path.ofText home).join (.ofText fileName)

def size (h : History) : Nat := h.entries.size

def numbered (h : History) : List (Nat × Text) := h.entries.toList.map fun e => (e.tag, e.text)

/-- Adds a line. Beyond the capacity the oldest entry goes, and the others are numbered anew. -/
def push (h : History) (line : Text) : History :=
  let entries := h.entries.push line h.nextTag
  if capacity < entries.size then
    let entries := (entries.latest capacity).renumber
    { h with entries, nextTag := entries.size }
  else { h with entries, nextTag := h.nextTag + 1 }

/-- A history of the latest of these lines that are not empty. -/
def ofLines (path : Option Path) (lines : List Text) : History :=
  let texts := lines.filter (!·.isEmpty)
  let entries := (Entries.latest ⟨texts.map (⟨0, ·⟩)⟩ capacity).renumber
  { entries, nextTag := entries.size, path }

/-- A line that a newline ends loses a carriage return in front of it. -/
def dropReturn (line : Bytes) : Bytes :=
  if line.getLast? = some 0x0D then line.dropLast else line

/-- The lines of a file; `none` if one of them is not UTF-8. What stands behind the last newline is
a line too, and keeps its carriage return. -/
def fileLines? (content : Bytes) : Option (List Text) :=
  let pieces := splitWhere (· == 0x0A) content
  (pieces.dropLast.map dropReturn ++ pieces.getLast?.toList).mapM Utf8.decode?

def fileContent (h : History) : Bytes := h.entries.texts.flatMap fun t => Utf8.encode t.line

/-- Reads a history file. A file that is not there is an empty history. -/
def load (fs : FileSystem) (base : Location) (path : Path) : Except Failure History :=
  match fs.read base path with
  | .error (.os errno) =>
    if errno = .noEntry then .ok { path } else .error (.history path (.os errno))
  | .error cause => .error (.history path cause)
  | .ok content =>
    match fileLines? content with
    | none => .error (.history path .invalidUtf8)
    | some lines => .ok (ofLines path lines)

/-- Writes the history to its file, if it has one. A file that cannot be written to its end has
lost what it held. -/
def save (h : History) (fs : FileSystem) (base : Location) : Except Failure Unit × FileSystem :=
  match h.path with
  | none => (.ok (), fs)
  | some path =>
    match fs.write base path h.fileContent with
    | (.ok (), fs) => (.ok (), fs)
    | (.error cause, fs) => (.error (.history path cause), fs)

end History
end LineShell
