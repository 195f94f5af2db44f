import LineShell.Host.Regex.Parser
import LineShell.Host.Utility.Concatenate

/-! `grep`: lines that match expressions. -/
namespace LineShell.Utility

/-- What is looked for in lines: expressions, any of which may match, and what a match has to be. -/
structure Wanted where
  expressions : List Regex
  /-- No part of a word stands next to a match. -/
  words : Bool := false
  /-- A match is a whole line. -/
  lines : Bool := false

namespace Wanted

/-- Whether a match from one place to another is one that is wanted. -/
def allows (w : Wanted) (start stop : Regex.Place) : Bool :=
  if w.lines then start.before.isNone && stop.rest.isEmpty
  else if w.words then
    !start.before.any Regex.isWordChar && !stop.rest.head?.any Regex.isWordChar
  else true

def matchAt? (w : Wanted) (p : Regex.Place) : Option Regex.Match :=
  let ways := w.expressions.flatMap fun r =>
    (r.ways r.copies (p, [])).filter fun (q, _) => w.allows p q
  (Regex.longest? ways).map fun (stop, groups) => { start := p, stop, groups }

def findIn (w : Wanted) (index : Nat) (before : Option Char) : Text → Option Regex.Match
  | [] => w.matchAt? { index, before, rest := [] }
  | c :: rest =>
    match w.matchAt? { index, before, rest := c :: rest } with
    | some m => some m
    | none => findIn w (index + 1) (some c) rest

def isIn (w : Wanted) (line : Text) : Bool := (w.findIn 0 none line).isSome

/-- All matches in a line that are not empty, from left to right. -/
def all (w : Wanted) : Nat → Regex.Place → List Regex.Match
  | 0, _ => []
  | n + 1, p =>
    match w.findIn p.index p.before p.rest with
    | none => []
    | some m =>
      if m.text.isEmpty then
        match m.start.rest with
        | [] => []
        | _ :: _ => all w n (m.start.skip 1)
      else m :: all w n m.stop

end Wanted

/-- What is printed of the lines that were looked at. -/
structure LineSearch where
  given : Given
  wanted : Wanted
  inverted : Bool := false
  /-- The lines in front of a match and behind it that are printed too. -/
  before : Nat := 0
  after : Nat := 0
  /-- No more lines than these are selected. -/
  limit : Option Nat := none
  named : Bool := false
  /-- Numbers fill this width. -/
  width : Nat := 0

namespace LineSearch

def has (l : LineSearch) (c : Char) : Bool := l.given.has c

/-- Whether nothing but a count, a name or a status is wanted. -/
def isBrief (l : LineSearch) : Bool := l.has 'c' || l.has 'l' || l.has 'L' || l.has 'q'

/-- What stands in front of a line: the name, the number and the offset, with a sign behind each. -/
def front (l : LineSearch) (name : Text) (sign : Char) (number offset : Nat) : Text :=
  let name := if l.named then name ++ [if l.has 'Z' then '\x00' else sign] else []
  let number := if l.has 'n' then padded l.width number ++ [sign] else []
  let offset := if l.has 'b' then padded l.width offset ++ [sign] else []
  let all := name ++ number ++ offset
  if l.has 'T' ∧ all ≠ [] then all ++ ['\t'] else all

def mark (l : LineSearch) : Char := if l.has 'z' then '\x00' else '\n'

end LineSearch

/-- What is known about an input while its lines are looked at. -/
structure SearchState where
  number : Nat := 0
  offset : Nat := 0
  selected : Nat := 0
  /-- Lines that have not been printed, the last one first, with their numbers and offsets. -/
  earlier : List (Nat × Nat × Text) := []
  /-- So many lines behind a match are still to be printed. -/
  due : Nat := 0
  /-- The number of the last line that has been printed. -/
  last : Option Nat := none
  /-- Text may not be printed. -/
  binary : Bool := false

def LineSearch.printLine (l : LineSearch) (name : Text) (sign : Char) (number offset : Nat) (line : Text) :
    Tool Unit := do
  if l.has 'o' then
    if sign = ':' ∧ !l.inverted then
      for m in l.wanted.all (line.length + 1) { rest := line } do
        Tool.print (l.front name sign number (offset + m.start.index) ++ m.text ++ [l.mark])
  else Tool.print (l.front name sign number offset ++ line ++ [l.mark])

def LineSearch.look (l : LineSearch) (name : Text) (s : SearchState) (piece : Text) :
    Tool (ForInStep SearchState) := do
  let line := if piece.getLast? = some l.mark then piece.dropLast else piece
  let number := s.number + 1
  let offset := s.offset
  let s := { s with number, offset := s.offset + piece.length }
  let full := l.limit.any (· ≤ s.selected)
  if !full && l.wanted.isIn line != l.inverted then
    let s := { s with selected := s.selected + 1 }
    if l.has 'q' then
      Tool.flush
      throw (.exited 0)
    if l.has 'l' ∨ l.has 'L' then return .done s
    if l.isBrief then return if l.limit.any (· ≤ s.selected) then .done s else .yield s
    if s.binary then return .done s
    let context := s.earlier.take l.before
    let begins := (context.getLast?.map (·.1)).getD number
    let apart := s.last.any (· + 1 < begins)
    if apart ∧ (0 < l.before ∨ 0 < l.after) ∧ !l.has 'Y' then
      Tool.print (((l.given.value? 'X').getD "--".toList) ++ ['\n'])
    for (n, o, t) in context.reverse do l.printLine name '-' n o t
    l.printLine name ':' number offset line
    let s := { s with earlier := [], due := l.after, last := some number }
    return if l.limit.any (· ≤ s.selected) ∧ l.after = 0 then .done s else .yield s
  else if 0 < s.due ∧ !l.isBrief then
    if s.binary then return .yield s
    l.printLine name '-' number offset line
    let s := { s with due := s.due - 1, last := some number, earlier := [] }
    return if s.due = 0 ∧ l.limit.any (· ≤ s.selected) then .done s else .yield s
  else
    if l.limit.any (· ≤ s.selected) then return .done s
    return .yield { s with earlier := ((number, offset, line) :: s.earlier).take l.before }

/-- Looks at an input whose beginning tells whether it is text, and says whether lines were
selected. -/
def LineSearch.lookAt (l : LineSearch) (name : Text) (feed : Feed) : Tool Bool := do
  let feed ← if feed.buffer = [] ∧ feed.ended.isNone then feed.more else pure feed
  let binary := !l.has 'a' && feed.buffer.contains (if l.has 'z' then '\x80' else '\x00')
  let start : SearchState := { binary }
  let (s, feed) ← if l.limit = some 0 then pure (start, feed)
    else Feed.foldPieces l.mark (l.look name) Activity.readLimit start feed
  if feed.descriptor = 0 ∧ l.limit.isSome then Tool.act (.goBack 0 feed.buffer.length)
  feed.close
  match feed.failure? with
  | some errno => if !l.has 's' then Tool.blame 2 (name ++ ": ".toList ++ errno.text)
  | none => pure ()
  if binary ∧ 0 < s.selected ∧ !l.isBrief then
    Tool.complain (name ++ ": binary file matches".toList)
  let named (t : Text) : Text := t ++ [if l.has 'Z' then '\x00' else '\n']
  if l.has 'c' then
    let front := if l.named then name ++ [if l.has 'Z' then '\x00' else ':'] else []
    Tool.print ((front ++ Text.decimal s.selected).line)
  if l.has 'l' ∧ 0 < s.selected then Tool.print (named name)
  if l.has 'L' ∧ s.selected = 0 then Tool.print (named name)
  return 0 < s.selected

def LineSearch.takes (l : LineSearch) (isDirectory : Bool) (name : Text) : Bool :=
  let fits (pattern : Text) : Bool :=
    Script.Pattern.fits pattern name || Script.Pattern.fits pattern (lastNameOf name)
  let values (c : Char) : List Text := (l.given.options.filter (·.1 == c)).map (·.2)
  if isDirectory then !(values 'O').any fits
  else !(values 'K').any fits && (values 'N' == [] || (values 'N').any fits)
where
  /-- What stands behind the last slash. -/
  lastNameOf (t : Text) : Text := (splitWhere (· == '/') t).getLast?.getD []

/-- Looks through what a name stands for; `depth` bounds how far directories are gone into. -/
def LineSearch.search (l : LineSearch) : Nat → Bool → Text → Tool Bool
  | 0, _, _ => return false
  | depth + 1, given, name => do
    let v ← Tool.view
    let blame (cause : IoError) : Tool Bool := do
      if l.has 's' then modify fun d => { d with status := 2 }
      else Tool.blame 2 (name ++ ": ".toList ++ reason cause)
      return false
    if name = ['-'] ∧ given then
      return ← l.lookAt ((l.given.value? 'M').getD "(standard input)".toList) {}
    match if given || l.has 'R' then v.find name else v.entry name >>= fun
        | .found here node => .ok (here, node)
        | .vacant _ => .error (.os .noEntry) with
    | .error cause => blame cause
    | .ok (_, node) =>
      if node.isDirectory then
        if !(l.has 'r' || l.has 'R') then
          if l.given.value? 'd' = some "skip".toList then return false
          else blame (.os .isDirectory)
        else if !given && !l.takes true name then return false
        else
          if !v.files.mayRead node then return ← blame (.os .accessDenied)
          let mut found := false
          for (child, _) in node.children do
            let path := if name = ['.'] ∧ l.given.operands = [] then child else Path.within name child
            found := (← l.search depth false path) || found
          return found
      else if !given && (!l.has 'R' && node.isLink) then return false
      else if !l.takes false name then return false
      else if !given ∧ !node.isFile then return false
      else
        if !l.isBrief ∧ (← isOutput name) then
          Tool.blame 2 (name ++ ": input file is also the output".toList)
          return false
        let width := if l.has 'T' then (Text.decimal (v.files.size node)).length else 0
        match ← Feed.ofName name with
        | .ok feed => LineSearch.lookAt { l with width } name { feed with unit := 32768 }
        | .error cause => blame cause

def expandContext (arguments : List Text) : List Text :=
  let front := arguments.takeWhile (· ≠ ['-', '-'])
  let change (t : Text) : Text :=
    match t with
    | '-' :: digits => if digits ≠ [] ∧ digits.all Char.isDigit then '-' :: 'C' :: digits else t
    | _ => t
  front.map change ++ arguments.drop front.length

/-- How directories may be nested for a search to reach the bottom. -/
def searchDepth : Nat := 1000

def searchLines (flavour : Option Char) : Tool Nat := do
  let known : Known :=
    { letters := "EFGPIivywxcLlqshHnobrRzZTaU", valued := "efmABCdDJKMNOX", status := 2
      usage := "[OPTION]... PATTERNS [FILE]..."
      loose := "S", named := "JKMNOSX"
      long := [("regexp", 'e'), ("file", 'f'), ("ignore-case", 'i'), ("no-ignore-case", 'W'),
        ("invert-match", 'v'), ("word-regexp", 'w'), ("line-regexp", 'x'), ("count", 'c'),
        ("color", 'S'), ("colour", 'S'), ("files-without-match", 'L'), ("files-with-matches", 'l'),
        ("max-count", 'm'), ("only-matching", 'o'), ("quiet", 'q'), ("silent", 'q'),
        ("no-messages", 's'), ("byte-offset", 'b'), ("with-filename", 'H'), ("no-filename", 'h'),
        ("label", 'M'), ("line-number", 'n'), ("initial-tab", 'T'), ("null", 'Z'),
        ("after-context", 'A'), ("before-context", 'B'), ("context", 'C'), ("text", 'a'),
        ("exclude", 'K'), ("exclude-dir", 'O'), ("include", 'N'), ("recursive", 'r'),
        ("dereference-recursive", 'R'), ("null-data", 'z'), ("extended-regexp", 'E'),
        ("fixed-strings", 'F'), ("basic-regexp", 'G'), ("perl-regexp", 'P'), ("directories", 'd'),
        ("devices", 'D'), ("binary-files", 'J'), ("line-buffered", 'U'), ("no-group-separator", 'Y'), ("group-separator", 'X')] }
  let g ← known.read Known.letterLimit (expandContext (← Tool.arguments)) {}
  let given := g.options.filter fun (c, _) => c == 'e' || c == 'f'
  let (sources, operands) ← match given, g.operands with
    | [], [] => known.refuse []
    | [], pattern :: rest => pure ([('e', pattern)], rest)
    | given, operands => pure (given, operands)
  let mut patterns : List Text := []
  for (c, value) in sources do
    if c = 'e' then patterns := patterns ++ splitWhere (· == '\n') value
    else
      match ← Tool.content value with
      | .ok t => patterns := patterns ++ (linesOf t).map bare
      | .error cause => Tool.refuse 2 (value ++ ": ".toList ++ reason cause)
  let kind := ((g.options.filter fun (c, _) => "EFGP".toList.contains c).getLast?.map (·.1)).or flavour
  let anyCase := ((g.options.filter fun (c, _) => "iyW".toList.contains c).getLast?).any (·.1 != 'W')
  let dialect : Regex.Dialect := { extended := kind == some 'E' || kind == some 'P', anyCase }
  let mut expressions : List Regex := []
  for pattern in patterns do
    if kind = some 'F' then
      expressions := expressions ++ [.sequence (pattern.map dialect.literal)]
    else
      if "[:".toList.isPrefixOf pattern ∧ ":]".toList.isSuffixOf pattern ∧ 3 < pattern.length then
        Tool.refuse 2 "character class syntax is [[:space:]], not [:space:]".toList
      match dialect.read pattern with
      | .ok (r, _) => expressions := expressions ++ [r]
      | .error fault => Tool.refuse 2 fault.message
  let number (what : String) (value : Text) : Tool Nat := do
    match sizeOf? value with
    | some n => return n
    | none =>
      if what = "" then Tool.refuse 2 "invalid max count".toList
      else Tool.refuse 2 (value ++ ": invalid context length argument".toList)
  let mut before := 0
  let mut after := 0
  let mut both := 0
  let mut limit : Option Nat := none
  for (c, value) in g.options do
    match c with
    | 'A' => after ← number "context" value
    | 'B' => before ← number "context" value
    | 'C' => both ← number "context" value
    | 'm' => if value.head? ≠ some '-' then limit := some (← number "" value)
    | _ => pure ()
  let recursive := g.has 'r' || g.has 'R'
  let operands := if operands = [] then [if recursive then ['.'] else ['-']] else operands
  let name := (g.options.filter fun (c, _) => c == 'H' || c == 'h').getLast?.map (·.1)
  let isFirstDirectory := (← Tool.view).node? (operands.headD []) |>.any Node.isDirectory
  let named := match name with
    | some c => c == 'H'
    | none => decide (1 < operands.length) || (recursive && isFirstDirectory)
  let l : LineSearch :=
    { given := { g with operands := if g.operands.length ≤ 1 ∧ given = [] then [] else g.operands }
      wanted := { expressions, words := g.has 'w', lines := g.has 'x' }
      inverted := g.has 'v'
      before := if g.has 'B' then before else both
      after := if g.has 'A' then after else both
      limit
      named }
  let mut found := false
  for operand in operands do found := (← l.search searchDepth true operand) || found
  if (← get).status = 2 then return 2
  return if found then 0 else 1

end LineShell.Utility
