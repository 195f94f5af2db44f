import LineShell.Interpreter

/-!
Lines from what the shell has open. They are read in blocks as they are needed, and what one block
holds stays as it was read, whatever becomes of the file.
-/
namespace LineShell.Shell

def blockSize : Nat := 8192

/-- Takes a line with its newline, and gives what was read behind it. Where the input ends, what
came before is a line, and an empty one if nothing did. At most `limit` blocks are read. -/
def takeLine (descriptor : Nat) :
    Nat → Bytes → Shell → Except Errno (Bytes × Bytes) × Shell
  | 0, read, sh => (.ok (read, []), sh)
  | limit + 1, read, sh =>
    let line := read.takeWhile (· != 0x0A)
    match read.drop line.length with
    | newline :: rest => (.ok (line ++ [newline], rest), sh)
    | [] =>
      match sh.host.pull descriptor blockSize with
      | (.error errno, host) => (.error errno, { sh with host })
      | (.ok [], host) => (.ok (read, []), { sh with host })
      | (.ok more, host) => takeLine descriptor limit (read ++ more) { sh with host }

/-- Whether the shell reads no more: it has been asked to stop, or a signal has ended it. -/
def isOver (sh : Shell) : Bool :=
  sh.session.exitRequest.isSome || sh.host.fatalSignal?.isSome

/-- Reads and runs lines through a descriptor until one asks to stop or the input ends. -/
def replFrom (factories : List Factory) (descriptor : Nat) : Nat → Bytes → Shell → Shell
  | 0, _, sh => sh
  | limit + 1, read, sh =>
    if sh.isOver then sh
    else
      match takeLine descriptor Activity.readLimit read sh with
      | (.error errno, sh) =>
        { sh with warnings := sh.warnings ++ [.inputLost (.io (.os errno))] }
      | (.ok ([], _), sh) => sh
      | (.ok (line, read), sh) =>
        replFrom factories descriptor limit read (sh.accept factories (Reader.lineText line))

def replAll (factories : List Factory) (descriptor : Nat) : Shell → Shell :=
  replFrom factories descriptor Activity.readLimit []

end LineShell.Shell
