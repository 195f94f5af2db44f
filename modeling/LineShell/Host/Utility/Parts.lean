import LineShell.Host.Utility.Concatenate

/-! The first and the last parts of files. -/
namespace LineShell.Utility

/-- How much of a text is meant, and from which end it is counted. -/
structure Amount where
  sign : Option Char := none
  count : Nat := 10
  /-- Bytes are counted, not lines. -/
  bytes : Bool := false

def amount? (bytes : Bool) (t : Text) : Option Amount :=
  let (sign, t) := match t with
    | '+' :: t => (some '+', t)
    | '-' :: t => (some '-', t)
    | t => (none, t)
  (sizeOf? t).map fun count => { sign, count, bytes }

def expandCount : List Text → List Text
  | ('-' :: c :: rest) :: more =>
    if c.isDigit then
      let digits := (c :: rest).takeWhile Char.isDigit
      match (c :: rest).drop digits.length with
      | ['c'] => ('-' :: 'c' :: digits) :: more
      | 'l' :: letters | letters =>
        ('-' :: 'n' :: digits) :: (if letters = [] then more else ('-' :: letters) :: more)
    else ('-' :: c :: rest) :: more
  | arguments => arguments

/-- Options, how much is wanted, and whether every part gets a header. -/
structure PartOrder where
  given : Given
  amount : Amount
  headers : Bool

/-- Reads the options that `head` and `tail` share. -/
def readPartOrder (letters : String) : Tool PartOrder := do
  let known : Known :=
    { letters := "qvz" ++ letters, valued := "ncs"
      loose := "L", named := "L"
      long := [("lines", 'n'), ("bytes", 'c'), ("quiet", 'q'), ("silent", 'q'), ("verbose", 'v'),
        ("zero-terminated", 'z'), ("follow", 'L'), ("retry", 'F'), ("sleep-interval", 's')] }
  let given ← known.read Known.letterLimit (expandCount (← Tool.arguments)) {}
  let chosen := given.options.reverse.find? fun (c, _) => c == 'n' || c == 'c'
  let amount ← match chosen with
    | none => pure {}
    | some (c, value) =>
      match amount? (c == 'c') value with
      | some amount => pure amount
      | none =>
        let what := if c = 'n' then "lines" else "bytes"
        let shown := if value.head? = some '-' then value.drop 1 else value
        Tool.refuse 1 (("invalid number of " ++ what ++ ": ").toList ++ quotePlainly shown)
  let quiet := (given.options.reverse.find? fun (c, _) => c == 'q' || c == 'v').map (·.1)
  let headers := match quiet with
    | some 'q' => false
    | some _ => true
    | none => decide (1 < given.operands.length)
  return { given, amount, headers }

namespace PartOrder

def mark (o : PartOrder) : Char := if o.given.has 'z' then '\x00' else '\n'

/-- Prints the header of a part, if there are headers. -/
def header (o : PartOrder) (first : Bool) (name : Text) : Tool Unit := do
  if o.headers then
    let front := if first then [] else ['\n']
    let name := if name = ['-'] then "standard input".toList else name
    Tool.print (front ++ "==> ".toList ++ name ++ " <==\n".toList)

def run (o : PartOrder) (choose : Feed → Tool Feed) : Tool Nat := do
  let mut first := true
  for name in inputNames o.given.operands do
    match ← Feed.ofName name with
    | .error cause =>
      Tool.blame 1 ("cannot open ".toList ++ quote name ++ " for reading: ".toList ++ reason cause)
    | .ok feed =>
      o.header first name
      first := false
      let feed ← choose feed
      feed.close
      match feed.failure? with
      | some errno =>
        let shown := if name = ['-'] then "standard input".toList else name
        Tool.blame 1 ("error reading ".toList ++ quote shown ++ ": ".toList ++ errno.text)
      | none => pure ()
  return 0

end PartOrder

/-- The pieces of a text that marks end; the last may lack its own. -/
def piecesOf (mark : Char) (t : Text) : List Text :=
  let parts := splitWhere (· == mark) t
  let last := parts.getLast?.getD []
  parts.dropLast.map (· ++ [mark]) ++ (if last = [] then [] else [last])

def Feed.rest : Nat → List Text → Feed → Tool (Text × Feed)
  | 0, read, f => return (read.reverse.flatten, f)
  | fuel + 1, read, f => do
    match ← f.block with
    | ([], f) => return (read.reverse.flatten, f)
    | (t, f) => rest fuel (t :: read) f

def headUnit : Nat := 8192

def printBytes : Nat → Nat → Feed → Tool Feed
  | 0, _, f => return f
  | fuel + 1, n, f => do
    if n = 0 then return f
    let (t, f) ← { f with unit := min headUnit n }.block
    if t = [] then return f
    Tool.print t
    printBytes fuel (n - t.length) f

/-- The text up to the mark of so many lines, how many marks are still wanted, and the rest. -/
def takeLines (mark : Char) : Nat → Text → Text → Text × Nat × Text
  | 0, t, taken => (taken.reverse, 0, t)
  | n + 1, [], taken => (taken.reverse, n + 1, [])
  | n + 1, c :: t, taken =>
    if c = mark then takeLines mark n t (c :: taken) else takeLines mark (n + 1) t (c :: taken)

/-- Prints so many lines. What has been read beyond them is put back, where that can be done. -/
def printLines (mark : Char) : Nat → Nat → Feed → Tool Feed
  | 0, _, f => return f
  | fuel + 1, n, f => do
    if n = 0 then return f
    let (t, f) ← { f with unit := headUnit }.block
    if t = [] then return f
    let (front, left, rest) := takeLines mark n t []
    Tool.print front
    if rest ≠ [] then Tool.act (.goBack f.descriptor rest.length)
    printLines mark fuel left f

/-- Prints the first lines of files; with a minus sign, all but the last. -/
def head : Tool Nat := do
  let o ← readPartOrder ""
  let a := o.amount
  o.run fun feed => do
    if a.sign = some '-' then
      let (t, feed) ← Feed.rest Activity.readLimit [] feed
      if a.bytes then Tool.print (t.take (t.length - a.count))
      else
        let pieces := piecesOf o.mark t
        Tool.print (pieces.take (pieces.length - a.count)).flatten
      return feed
    else if a.bytes then printBytes Activity.readLimit a.count feed
    else printLines o.mark Activity.readLimit a.count feed

/-- How long `tail` waits before it looks again whether a file has grown. -/
def followTime : Nat := 1000000000

def follow : Nat → Feed → Tool Feed
  | 0, f => return f
  | fuel + 1, f => do
    Tool.flush
    Tool.act (.sleep followTime)
    let (t, f) ← { f with ended := none }.block
    Tool.print t
    follow fuel f

/-- Prints the last lines of files; with a plus sign, those from a line on. -/
def tail : Tool Nat := do
  let o ← readPartOrder "fF"
  let a := o.amount
  o.run fun feed => do
    let (t, feed) ← Feed.rest Activity.readLimit [] feed
    let pick {α : Type} (xs : List α) : List α :=
      if a.sign = some '+' then xs.drop (a.count - 1) else xs.drop (xs.length - a.count)
    Tool.print (if a.bytes then pick t else (pick (piecesOf o.mark t)).flatten)
    if (o.given.has 'f' ∨ o.given.has 'F' ∨ o.given.has 'L') ∧ feed.descriptor ≠ 0 then
      follow Activity.readLimit feed
    else return feed

end LineShell.Utility
