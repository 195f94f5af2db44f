import LineShell.Host.Utility.Editing.Commands

/-! How the script of a stream editor is written. -/
namespace LineShell.Editing

/-- What the text of a script is, for complaints: an argument of some number, or a file. -/
inductive Origin
  | argument (number : Nat)
  | file (name : Text)

/-- What is read of a script that may be written in several parts. -/
structure Reading where
  rest : Text := []
  /-- How many characters of the part have been read. -/
  position : Nat := 0
  line : Nat := 1
  origin : Origin := .argument 0
  /-- Whether this is the first part. -/
  first : Bool := true
  script : Script := {}
  /-- Blocks that are open: their commands, and where they begin. -/
  blocks : List (Nat × Origin × Nat) := []
  /-- A text that goes on in the next part: its command, and what has been read of it. -/
  pending : Option (Nat × Text) := none
  /-- The files that are written to, the last one first. -/
  outputs : List Text := []
  /-- Lines are printed only if that is asked for. -/
  quiet : Bool := false
  /-- Expressions are written without backslashes in front of their operators. -/
  extended : Bool := false
  /-- Newlines end no lines. -/
  oneLine : Bool := false
  /-- Neither commands nor other files may be used. -/
  confined : Bool := false

abbrev Read := EStateM Text Reading

namespace Read

def fail {α : Type} (message : String) : Read α := throw message.toList

def next : Read (Option Char) := do
  let r ← get
  match r.rest with
  | [] => return none
  | c :: rest =>
    set { r with rest, position := r.position + 1, line := r.line + if c = '\n' then 1 else 0 }
    return some c

def back : Option Char → Read Unit
  | none => return ()
  | some c => modify fun r =>
    { r with rest := c :: r.rest, position := r.position - 1
             line := r.line - if c = '\n' then 1 else 0 }

/-- Takes characters as long as they are of some kind. -/
def takeWhile (p : Char → Bool) : Read Text := do
  let t := (← get).rest.takeWhile p
  for _ in t do
    let _ ← next
  return t

/-- Whether a character stands between words of a line. -/
def isBlank (c : Char) : Bool := c == ' ' || c == '\t'

def nextVisible : Read (Option Char) := do
  let _ ← takeWhile isBlank
  next

/-- Takes a number that comes next; 0 if there is none. -/
def number : Read Nat := return (Text.natural? (← takeWhile Char.isDigit)).getD 0

def endCommand : Read Unit := do
  match ← nextVisible with
  | some '}' => back (some '}')
  | some '#' => back (some '#')
  | none | some '\n' | some ';' => return ()
  | _ => fail "extra characters after command"

def label : Read Text := do
  let _ ← takeWhile isBlank
  takeWhile fun c => !isWhite c && c != ';' && c != '}'
where
  isWhite (c : Char) : Bool := c == ' ' || ('\t' ≤ c && c ≤ '\r')

/-- Takes the name of a file, which goes as far as the line does. -/
def fileName : Read Text := do
  let _ ← takeWhile isBlank
  let name ← takeWhile (· != '\n')
  let _ ← next
  if name = [] then fail "missing filename in r/R/w/W commands"
  return name

def outputName : Read Text := do
  let name ← fileName
  modify fun r => { r with outputs := name :: r.outputs }
  return name

def mustBeFree : Read Unit := do
  if (← get).confined then fail "e/r/w commands disabled in sandbox mode"

/-! ### Texts between signs -/

/-- Where in a set of characters a text has come to. -/
inductive Zone
  | outside
  /-- Behind the opening bracket. -/
  | opened
  /-- Where a closing bracket stands for itself. -/
  | first
  | inside
  /-- In the name of a class, which ends like it began. -/
  | named (sign : Char)
  deriving DecidableEq

/-- The zone behind a character that is no backslash, if that is no closing sign; what follows
decides whether a name begins or ends here. -/
def Zone.after (z : Zone) (c : Char) (following : Option Char) : Zone :=
  let member : Zone :=
    if c = '[' then
      match following with
      | some sign => if sign = '.' ∨ sign = ':' ∨ sign = '=' then .named sign else .inside
      | none => .inside
    else .inside
  match z with
  | .outside => if c = '[' then .opened else .outside
  | .opened => if c = '^' then .first else member
  | .first => member
  | .inside => if c = ']' then .outside else member
  | .named sign => if c = sign ∧ following = some ']' then .first else .named sign

/-- Takes the text up to a sign, backwards; a backslash takes the meaning from the sign. In an
expression the sign means nothing in a set of characters. -/
def upTo (sign : Char) (isExpression : Bool) : Nat → Zone → Text → Read (Option Text)
  | 0, _, _ => return none
  | n + 1, zone, found => do
    match ← next with
    | none => return none
    | some '\n' =>
      back (some '\n')
      return none
    | some c =>
      if c = sign ∧ zone = .outside then return some found.reverse
      else if c = '\\' then
        match ← next with
        | none => return none
        | some d =>
          if d = 'n' ∧ isExpression then upTo sign isExpression n (zone.after 'n' none) ('\n' :: found)
          else if zone ≠ .outside then
            back (some d)
            upTo sign isExpression n (zone.after '\\' none) ('\\' :: found)
          else if d = '\n' ∨ (d = sign ∧ (isExpression ∨ d ≠ '&')) then
            upTo sign isExpression n zone (d :: found)
          else upTo sign isExpression n zone (d :: '\\' :: found)
      else
        let following := (← get).rest.head?
        let zone := if isExpression then zone.after c following else .outside
        upTo sign isExpression n zone (c :: found)

def delimited (sign : Char) (isExpression : Bool) : Read (Option Text) := do
  upTo sign isExpression ((← get).rest.length + 1) .outside []

/-- The expression that a text stands for, and how many groups it has. -/
def expression (t : Text) (anyCase manyLines : Bool) : Read (Expression × Nat) := do
  if t = [] then
    if anyCase ∨ manyLines then fail "cannot specify modifiers on empty regexp"
    return (none, 9)
  let r ← get
  let d : Regex.Dialect :=
    { extended := r.extended, strict := true, anyCase, manyLines := manyLines && !r.oneLine }
  match d.read (expressionText (t.length + 1) t) with
  | .ok (e, groups) => return (some e, groups)
  | .error fault => throw fault.message

/-! ### Addresses -/

/-- Takes the letters behind the expression of an address. -/
def addressFlags : Nat → Bool → Bool → Read (Bool × Bool)
  | 0, anyCase, manyLines => return (anyCase, manyLines)
  | n + 1, anyCase, manyLines => do
    match ← nextVisible with
    | some 'I' => addressFlags n true manyLines
    | some 'M' => addressFlags n anyCase true
    | c =>
      back c
      return (anyCase, manyLines)

/-- Takes an address that begins with a character, if one does. -/
def address? (c : Option Char) : Read (Option Stop) := do
  let expressionUpTo (sign : Option Char) : Read (Option Stop) := do
    match ← sign.elim (pure none) (delimited · true) with
    | none => fail "unterminated address regex"
    | some t =>
      let (anyCase, manyLines) ← addressFlags ((← get).rest.length + 1) false false
      let (e, _) ← expression t anyCase manyLines
      return some (.address (.matching e))
  match c with
  | some '/' => expressionUpTo c
  | some '\\' => expressionUpTo (← next)
  | some '$' => return some (.address .last)
  | some '+' => return some (.after (← visibleNumber))
  | some '~' => return some (.multiple (← visibleNumber))
  | some c =>
    if c.isDigit then
      back (some c)
      let n ← number
      match ← nextVisible with
      | some '~' =>
        let step ← visibleNumber
        return some (.address (if step = 0 then .line n else .every n step))
      | c =>
        back c
        return some (.address (.line n))
    else return none
  | none => return none
where
  /-- Takes a number behind blanks. -/
  visibleNumber : Read Nat := do
    let _ ← takeWhile isBlank
    number

/-! ### Commands -/

def addCommand (c : Command) : Read Unit := modify fun r =>
  { r with script := { r.script with commands := r.script.commands.push c } }

/-- The part of a text that goes as far as its last line does, whether it ends there, and what
follows. A backslash in front of a newline makes the text go on; one at the very end does so in the
next part. -/
def textLines : Text → Text × Bool × Text
  | [] => ([], true, [])
  | '\n' :: rest => ([], true, rest)
  | ['\\'] => ([], false, [])
  | '\\' :: c :: rest =>
    let (t, ended, rest) := textLines rest
    ('\\' :: c :: t, ended, rest)
  | c :: rest =>
    let (t, ended, rest) := textLines rest
    (c :: t, ended, rest)

def withText (a : Action) (t : Text) : Action :=
  let t := plainText (t.length + 1) t
  match a with
  | .append _ => .append t
  | .insert _ => .insert t
  | .change _ => .change t
  | .execute _ => .execute t
  | a => a

/-- Takes a text for the command of some number, behind what has been read of it already. -/
def takeText (index : Nat) (before : Text) : Read Unit := do
  let r ← get
  let (t, ended, rest) := textLines r.rest
  let used := r.rest.length - rest.length
  let t := before ++ t ++ ['\n']
  let lines := ((r.rest.take used).filter (· == '\n')).length
  let commands := r.script.commands.modify index fun c => { c with action := withText c.action t }
  set { r with
    rest
    position := r.position + used
    line := r.line + lines
    script := { r.script with commands }
    pending := if ended then none else some (index, t) }

/-- Takes the text of a command whose first sign has been read. A text behind a backslash keeps the
blanks in front of it, and may begin in the next line. -/
def commandText (c : Command) (first : Option Char) : Read Unit := do
  let index := (← get).script.commands.size
  match first with
  | none => fail "expected \\ after \x60a', \x60c' or \x60i'"
  | some '\\' =>
    addCommand c
    let behind := (← get).rest
    match behind.dropWhile isBlank with
    | '\n' :: _ =>
      let _ ← nextVisible
      takeText index []
    | _ =>
      if behind = [] then modify fun r => { r with pending := some (index, []) }
      else takeText index []
  | some sign =>
    addCommand c
    back (some sign)
    takeText index []

/-- What the letters behind a substitution say. -/
structure Flags where
  all : Bool := false
  prints : Bool := false
  executes : Bool := false
  anyCase : Bool := false
  manyLines : Bool := false
  first : Option Nat := none
  output : Option Text := none

def flags : Nat → Flags → Read Flags
  | 0, f => return f
  | n + 1, f => do
    match ← next with
    | none | some '\n' | some ';' => return f
    | some 'i' | some 'I' => flags n { f with anyCase := true }
    | some 'm' | some 'M' => flags n { f with manyLines := true }
    | some 'e' =>
      mustBeFree
      flags n { f with executes := true }
    | some 'p' =>
      if f.prints then fail "multiple \x60p' options to \x60s' command"
      flags n { f with prints := true }
    | some 'g' =>
      if f.all then fail "multiple \x60g' options to \x60s' command"
      flags n { f with all := true }
    | some 'w' =>
      mustBeFree
      return { f with output := some (← outputName) }
    | some c =>
      if c = '}' ∨ c = '#' then
        back (some c)
        return f
      else if isBlank c then flags n f
      else if c.isDigit then
        if f.first.isSome then fail "multiple number options to \x60s' command"
        back (some c)
        let first ← number
        if first = 0 then fail "number option to \x60s' command may not be zero"
        flags n { f with first := some first }
      else if c = '\r' ∧ (← get).rest.head? = some '\n' then
        let _ ← next
        return f
      else fail "unknown option to \x60s'"

def substitution : Read Substitution := do
  let unterminated {α : Type} : Read α := fail "unterminated \x60s' command"
  let sign ← next
  match ← sign.elim (pure none) (delimited · true) with
  | none => unterminated
  | some e =>
    match ← sign.elim (pure none) (delimited · false) with
    | none => unterminated
    | some t =>
      let replacement := pieces (t.length + 1) [] t
      let f ← flags ((← get).rest.length + 1) {}
      let (e, groups) ← expression e f.anyCase f.manyLines
      let greatest := greatestGroup replacement
      if groups < greatest then
        throw ("invalid reference \\".toList ++ Text.decimal greatest ++
          " on \x60s' command's RHS".toList)
      return { expression := e, replacement, first := f.first.getD 1, all := f.all
               prints := f.prints, executes := f.executes, output := f.output }

def transliteration : Read (List (Char × Char)) := do
  let unterminated {α : Type} : Read α := fail "unterminated \x60y' command"
  let sign ← next
  match ← sign.elim (pure none) (delimited · false) with
  | none => unterminated
  | some source =>
    match ← sign.elim (pure none) (delimited · false) with
    | none => unterminated
    | some target =>
      let source := plainText (source.length + 1) source
      let target := plainText (target.length + 1) target
      if source.length ≠ target.length then
        fail "strings for \x60y' command are different lengths"
      endCommand
      return source.zip target

/-- Whether a version is greater than the one whose commands are known. -/
def isNewer (version : Text) : Bool :=
  let numbers := (splitWhere (· == '.') version).map fun t => (Text.natural? t).getD 0
  decide ([4, 9] < numbers)

def action (c : Command) (letter : Char) : Read Unit := do
  let simple (a : Action) : Read Unit := do
    endCommand
    addCommand { c with action := a }
  let statusBehind : Read Nat := do
    if c.stop.isSome then fail "command only uses one address"
    let _ ← takeWhile isBlank
    let status ← number
    endCommand
    return status
  match letter with
  | '\x7b' =>
    let r ← get
    set { r with blocks := (r.script.commands.size, r.origin, r.line) :: r.blocks }
    addCommand { c with action := .opening 0 }
  | '\x7d' =>
    match (← get).blocks with
    | [] => fail "unexpected \x60\x7d'"
    | (index, _) :: blocks =>
      if c.start.isSome then fail "\x60\x7d' doesn't want any addresses"
      endCommand
      addCommand { action := .closing }
      modify fun r =>
        let stop := r.script.commands.size
        { r with
          blocks
          script := { r.script with
            commands := r.script.commands.modify index ({ · with action := .opening stop }) } }
  | '=' => simple .lineNumber
  | 'd' => simple .delete
  | 'D' => simple .deleteLine
  | 'F' => simple .fileName
  | 'g' => simple .get
  | 'G' => simple .getMore
  | 'h' => simple .hold
  | 'H' => simple .holdMore
  | 'n' => simple .next
  | 'N' => simple .nextMore
  | 'p' => simple .print
  | 'P' => simple .printLine
  | 'x' => simple .exchange
  | 'z' => simple .erase
  | 'a' => commandText { c with action := .append [] } (← nextVisible)
  | 'i' => commandText { c with action := .insert [] } (← nextVisible)
  | 'c' => commandText { c with action := .change [] } (← nextVisible)
  | 'e' =>
    mustBeFree
    match ← nextVisible with
    | none | some '\n' => addCommand { c with action := .execute [] }
    | first => commandText { c with action := .execute [] } first
  | ':' =>
    if c.start.isSome then fail ": doesn't want any addresses"
    let name ← label
    if name = [] then fail "\":\" lacks a label"
    modify fun r =>
      { r with script := { r.script with
          labels := r.script.labels ++ [(name, r.script.commands.size)] } }
    addCommand { action := .mark }
  | 'b' => addCommand { c with action := .jump none (← label) }
  | 't' => addCommand { c with action := .jump (some true) (← label) }
  | 'T' => addCommand { c with action := .jump (some false) (← label) }
  | 'q' => addCommand { c with action := .quit (← statusBehind) }
  | 'Q' => addCommand { c with action := .quitSilently (← statusBehind) }
  | 'l' =>
    let _ ← takeWhile isBlank
    let digits ← takeWhile Char.isDigit
    simple (.reveal (Text.natural? digits))
  | 'r' =>
    mustBeFree
    addCommand { c with action := .readFile (← fileName) }
  | 'R' =>
    mustBeFree
    addCommand { c with action := .readLine (← fileName) }
  | 'w' =>
    mustBeFree
    addCommand { c with action := .write (← outputName) }
  | 'W' =>
    mustBeFree
    addCommand { c with action := .writeLine (← outputName) }
  | 's' => addCommand { c with action := .substitute (← substitution) }
  | 'y' => addCommand { c with action := .transliterate (← transliteration) }
  | 'v' => if isNewer (← label) then fail "expected newer version of sed"
  | letter => throw ("unknown command: \x60".toList ++ [letter, '\''])

/-- Takes the addresses in front of a command that begins with a character. -/
def addresses (c : Option Char) : Read (Command × Option Char) := do
  match ← address? c with
  | none => return ({ action := .mark }, c)
  | some (.address start) =>
    let c ← nextVisible
    let (stop, c) ← if c = some ',' then
        match ← address? (← nextVisible) with
        | none => fail "unexpected \x60,'"
        | stop => pure (stop, ← nextVisible)
      else pure (none, c)
    match start, stop with
    | .line 0, some (.address (.matching _)) => pure ()
    | .line 0, _ => fail "invalid usage of line address 0"
    | _, _ => pure ()
    return ({ start := some start, stop, action := .mark }, c)
  | some _ => fail "invalid usage of +N or ~N as first address"

/-- Takes a comment. At the very beginning one may say that nothing is to be printed. -/
def comment : Read Unit := do
  let r ← get
  let isSign := r.first && r.position == 1 && r.rest.head? == some 'n'
  if isSign then modify ({ · with quiet := true })
  let _ ← takeWhile (· != '\n')
  let _ ← next

def commands : Nat → Read Unit
  | 0 => return ()
  | n + 1 => do
    let _ ← takeWhile fun c => c == ';' || label.isWhite c
    match ← next with
    | none => return ()
    | c =>
      let (command, c) ← addresses c
      let negated := c == some '!'
      let c ← if negated then nextVisible else pure c
      if negated ∧ c = some '!' then fail "multiple \x60!'s"
      match c with
      | none => fail "missing command"
      | some '#' =>
        if command.start.isSome then fail "comments don't accept any addresses"
        comment
      | some letter => action { command with negated } letter
      commands n

def part (origin : Origin) (t : Text) : Read Unit := do
  modify ({ · with rest := t, position := 0, line := 1, origin })
  match (← get).pending with
  | some (index, before) => takeText index before
  | none => pure ()
  commands (t.length + 1)
  modify ({ · with first := false })

/-- Finishes a script: every block has to be closed. -/
def finish : Read Unit := do
  match (← get).blocks with
  | [] => return ()
  | (_, origin, line) :: _ =>
    modify ({ · with origin, line, position := 0 })
    fail "unmatched \x60\x7b'"

end Read
end LineShell.Editing
