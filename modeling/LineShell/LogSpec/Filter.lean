import LineShell.LogSpec.Fault
import LineShell.LogSpec.Property
import LineShell.Text.Space

/-!
Filters for messages: regular expressions over Unicode text. They are only read here, and what is
wrong with the first part that cannot be understood is found.
-/
namespace LineShell.LogSpec

/-- A group that has been opened, with what holds again behind it. -/
structure OpenGroup where
  opening : Span
  spaced : Bool
  unicode : Bool

structure Scan where
  place : Point := {}
  rest : Text
  /-- White space and comments do not count. -/
  spaced : Bool := false
  /-- Classes hold of characters, and not of bytes. -/
  unicode : Bool := true
  groups : List OpenGroup := []
  /-- The names of groups. -/
  names : List (Text × Span) := []
  /-- There is something in front that can be repeated. -/
  repeatable : Bool := false
  /-- The first thing that is well written and has no meaning. -/
  meaningless : Option Fault := none

abbrev Read := EStateM Fault Scan

/-- What a sign or an escape stands for. -/
inductive Primitive
  /-- A character; `octet` if it is written as a byte. -/
  | literal (c : Char) (octet : Bool)
  /-- A class with a name, which may have no meaning. -/
  | property (fault : Option Cause)
  /-- One of the short classes, perhaps what is not in it. -/
  | short (negated : Bool)
  | any
  | assertion
  deriving DecidableEq

namespace Read

/-! ### Moving on -/

def place : Read Point := return (← get).place

def peek? : Read (Option Char) := return (← get).rest.head?

def isAtEnd : Read Bool := return (← get).rest.isEmpty

def bump : Read Unit :=
  modify fun s =>
    match s.rest with
    | [] => s
    | c :: rest => { s with rest, place := s.place.past c }

def restore (old : Scan) : Read Unit :=
  modify fun s => { s with place := old.place, rest := old.rest }

def bumpIf (t : String) : Read Bool := do
  if !t.toList.isPrefixOf (← get).rest then return false
  for _ in t.toList do bump
  return true

/-- How many signs of a text do not count: white space, and comments up to the end of a line. -/
def blankLength : Bool → Text → Nat
  | _, [] => 0
  | true, c :: rest => blankLength (c != '\n') rest + 1
  | false, c :: rest =>
    if Text.isSpace c then blankLength false rest + 1
    else if c = '#' then blankLength true rest + 1
    else 0

def bumpSpace : Read Unit := do
  let s ← get
  if s.spaced then
    for _ in List.range (blankLength false s.rest) do bump

def bumpFully : Read Unit := do
  bump
  bumpSpace

def peekNext? : Read (Option Char) := return ((← get).rest.drop 1).head?

/-- The next sign that counts behind the one at the place. -/
def peekFully? : Read (Option Char) := do
  let s ← get
  let rest := s.rest.drop 1
  return (if s.spaced then rest.drop (blankLength false rest) else rest).head?

def since (start : Point) : Read Span := return ⟨start, ← place⟩

def here : Read Span := do
  let p ← place
  return ⟨p, ((← peek?).map p.past).getD p⟩

def fail {α : Type} (cause : Cause) (span : Span) (other : Option Span := none) : Read α :=
  throw ⟨cause, span, other⟩

def failHere {α : Type} (cause : Cause) : Read α := do fail cause (← here)

def failBefore {α : Type} (cause : Cause) : Read α := do fail cause (← since (← place))

def failSince {α : Type} (cause : Cause) (start : Point) : Read α := do fail cause (← since start)

def doubt (cause : Cause) (span : Span) : Read Unit :=
  modify fun s => { s with meaningless := s.meaningless <|> some ⟨cause, span, none⟩ }

/-! ### Escapes -/

def isHexadecimal (c : Char) : Bool :=
  c.isDigit || ('a' ≤ c && c ≤ 'f') || ('A' ≤ c && c ≤ 'F')

/-- The character of a number in hexadecimal digits. -/
def characterOf? (digits : Text) : Option Char :=
  let n := digits.foldl (fun n c =>
    n * 16 + if c.isDigit then c.toNat - 48 else c.toLower.toNat - 87) 0
  if h : n.isValidChar then some ⟨UInt32.ofNatLT n (by
    rcases h with h | h
    · exact Nat.lt_trans h (by decide)
    · exact Nat.lt_trans h.2 (by decide)), by simpa [UInt32.isValidChar] using h⟩ else none

def digits : Nat → Text → Read Text
  | 0, t => return t.reverse
  | n + 1, t => do
    match ← peek? with
    | none => failBefore .openEscape
    | some c =>
      if !isHexadecimal c then failHere .badDigit
      bumpFully
      digits n (c :: t)

def digitsInBraces (start : Point) : Nat → Text → Read Text
  | 0, t => return t.reverse
  | n + 1, t => do
    match ← peek? with
    | none => failSince .openEscape start
    | some '}' => return t.reverse
    | some c =>
      if !isHexadecimal c then failHere .badDigit
      bumpFully
      digitsInBraces start n (c :: t)

/-- Reads the number of a character behind its letter. -/
def hexadecimal (letter : Char) : Read Primitive := do
  bumpFully
  let start ← place
  match ← peek? with
  | none => failBefore .openEscape
  | some '{' =>
    bumpFully
    let t ← digitsInBraces start ((← get).rest.length + 1) []
    let stop ← place
    bumpFully
    if t = [] then failSince .noDigits start
    match characterOf? t with
    | some c => return .literal c false
    | none => fail .noCharacter ⟨start.past '{', stop⟩
  | some _ =>
    let t ← digits (if letter = 'x' then 2 else if letter = 'u' then 4 else 8) []
    match characterOf? t with
    | some c => return .literal c (letter = 'x')
    | none => failSince .noCharacter start

def textInBraces : Nat → Text → Read Text
  | 0, t => return t.reverse
  | n + 1, t => do
    match ← peek? with
    | none => failBefore .openEscape
    | some '}' => return t.reverse
    | some c =>
      bumpFully
      textInBraces n (c :: t)

/-- What is wrong with a query for a property: a name, or a name and a value with `!=`, `:` or `=`
between them. -/
def queryCause? (query : Text) : Option Cause :=
  let missing := match cutAtDifference query with
    | some (name, value) => Property.missingValue? name value
    | none =>
      match Text.cut? ':' query <|> Text.cut? '=' query with
      | some (name, value) => Property.missingValue? name value
      | none => Property.missing? query
  missing.map fun m => if m = .value then .unknownValue else .unknownProperty
where
  /-- What stands before and after the first `!=`. -/
  cutAtDifference : Text → Option (Text × Text)
    | '!' :: '=' :: rest => some ([], rest)
    | c :: rest => (cutAtDifference rest).map fun (a, b) => (c :: a, b)
    | [] => none

def property : Read Primitive := do
  bumpFully
  match ← peek? with
  | none => failBefore .openEscape
  | some '{' =>
    bumpFully
    let t ← textInBraces ((← get).rest.length + 1) []
    bump
    return .property (queryCause? t)
  | some c =>
    if c = '\\' then failHere .badProperty
    bumpFully
    return .property (queryCause? [c])

def metaSigns : List Char := "\\.+*?()|[]\x7b\x7d^$#&-~".toList

/-- Reads letters in braces behind `\b`, unless they are a number of repetitions. -/
def boundary (start : Point) : Read Unit := do
  let old ← get
  let opening ← place
  bumpFully
  let contents ← place
  let isLetter (c : Char) : Bool := c.isAlpha || c == '-'
  match ← peek? with
  | none => failSince .openBrace start
  | some c =>
    if !isLetter c then restore old
    else
      let t ← letters isLetter ((← get).rest.length + 1) []
      if (← peek?) ≠ some '}' then failSince .openBoundary opening
      let stop ← place
      bump
      if ! ["start", "end", "start-half", "end-half"].any (·.toList == t) then
        fail .unknownBoundary ⟨contents, stop⟩
where
  /-- Reads letters as long as there are any. -/
  letters (isLetter : Char → Bool) : Nat → Text → Read Text
    | 0, t => return t.reverse
    | n + 1, t => do
      match ← peek? with
      | none => return t.reverse
      | some c =>
        if !isLetter c then return t.reverse
        bumpFully
        letters isLetter n (c :: t)

def escape : Read Primitive := do
  let start ← place
  bump
  match ← peek? with
  | none => failSince .openEscape start
  | some c =>
    if c.isDigit then fail .reference ⟨start, (← here).stop⟩
    else if c = 'x' ∨ c = 'u' ∨ c = 'U' then hexadecimal c
    else if c = 'p' ∨ c = 'P' then property
    else
      bump
      if "dsw".toList.contains c then return .short false
      if "DSW".toList.contains c then return .short true
      if metaSigns.contains c then return .literal c false
      if c.toNat < 128 ∧ !c.isAlphanum ∧ c ≠ '<' ∧ c ≠ '>' then return .literal c false
      match c with
      | 'a' => return .literal '\x07' false
      | 'f' => return .literal '\x0c' false
      | 't' => return .literal '\t' false
      | 'n' => return .literal '\n' false
      | 'r' => return .literal '\r' false
      | 'v' => return .literal '\x0b' false
      | 'A' | 'z' | 'B' | '<' | '>' => return .assertion
      | 'b' =>
        if (← peek?) = some '{' then boundary start
        return .assertion
      | _ => failSince .unknownEscape start

/-! ### Classes -/

/-- What an item of a class or an expression lacks when it has to match bytes, or what it lacks in
any case. -/
def examine (p : Primitive) (span : Span) (inClass : Bool) : Read Unit := do
  if (← get).unicode then
    match p with
    | .property (some cause) => doubt cause span
    | _ => return ()
  else
    match p with
    | .property _ => doubt .notAllowed span
    | .short true | .any => doubt .noText span
    | .literal c octet =>
      if 128 ≤ c.toNat then
        if octet then doubt .noText span
        else if inClass then doubt .notAllowed span
    | _ => return ()

def primitive (inClass : Bool) : Read (Primitive × Span) := do
  let start ← place
  match ← peek? with
  | some '\\' =>
    let p ← escape
    return (p, ← since start)
  | some c =>
    bump
    let p : Primitive := if inClass then .literal c false
      else if c = '.' then .any
      else if c = '^' ∨ c = '$' then .assertion
      else .literal c false
    return (p, ← since start)
  | none => return (.assertion, ← since start)

/-- A class that has been opened: where, how it begins, and whether it is what is not in it. -/
structure OpenClass where
  opening : Span
  negated : Bool

def classNames : List String :=
  ["alnum", "alpha", "ascii", "blank", "cntrl", "digit", "graph", "lower", "print", "punct",
    "space", "upper", "word", "xdigit"]

/-- Reads a class with a name, if there is one, and says whether it is what is not in that. -/
def namedClass? : Read (Option Bool) := do
  let s ← get
  match s.rest with
  | '[' :: ':' :: rest =>
    let negated := rest.head? == some '^'
    let rest := if negated then rest.drop 1 else rest
    let name := rest.takeWhile (· != ':')
    if (rest.drop name.length).take 2 ≠ [':', ']'] ∨ !classNames.any (·.toList == name) then
      return none
    for _ in List.range (name.length + if negated then 5 else 4) do bump
    return some negated
  | _ => return none

/-- Reads how a class begins. Signs that cannot mean anything else there stand for themselves. -/
def openClass : Read OpenClass := do
  let start ← place
  let check : Read Unit := do
    if ← isAtEnd then failSince .openClass start
  bumpFully
  check
  let negated := (← peek?) = some '^'
  if negated then
    bumpFully
    check
  let hasMinus := (← peek?) = some '-'
  for _ in (← get).rest do
    if (← peek?) = some '-' then
      bumpFully
      if ← isAtEnd then fail .openClass ⟨start, start⟩
    else break
  if !hasMinus ∧ (← peek?) = some ']' then
    bumpFully
    check
  return ⟨← since start, negated⟩

def failOpen {α : Type} (classes : List OpenClass) : Read α := do
  match classes with
  | c :: _ => fail .openClass c.opening
  | [] => failBefore .openClass

def classItem (classes : List OpenClass) : Read Unit := do
  let (first, span) ← primitive true
  bumpSpace
  if ← isAtEnd then failOpen classes
  let next ← peekFully?
  if (← peek?) ≠ some '-' ∨ next = some ']' ∨ next = some '-' then
    match first with
    | .assertion | .any => fail .escapeInClass span
    | _ => examine first span true
  else
    bumpFully
    if ← isAtEnd then failOpen classes
    let (last, lastSpan) ← primitive true
    match first, last with
    | .literal a _, .literal b _ =>
      if b < a then fail .rangeOrder ⟨span.start, lastSpan.stop⟩
      examine first span true
      examine last lastSpan true
    | .literal _ _, _ => fail .rangeBound lastSpan
    | _, _ => fail .rangeBound span

/-- Reads a class, with all classes in it, to its end. -/
def readClass : Nat → List OpenClass → Read Unit
  | 0, _ => return ()
  | fuel + 1, classes => do
    bumpSpace
    match ← peek? with
    | none => failOpen classes
    | some '[' =>
      let start ← place
      match ← (if classes = [] then pure none else namedClass?) with
      | some negated =>
        examine (.short negated) (← since start) true
        readClass fuel classes
      | none =>
        let c ← openClass
        readClass fuel (c :: classes)
    | some ']' =>
      bump
      match classes with
      | [] => return ()
      | c :: outer =>
        examine (.short c.negated) (← since c.opening.start) true
        if outer = [] then return () else readClass fuel outer
    | some c =>
      if (c = '&' ∨ c = '-' ∨ c = '~') ∧ (← peekNext?) = some c then
        bump
        bump
      else classItem classes
      readClass fuel classes

/-! ### Groups -/

/-- Whether a character may stand in the name of a group; letters of other alphabets may. -/
def isNameSign (first : Bool) (c : Char) : Bool :=
  let isForeign := 0xAA ≤ c.toNat && !(0x2000 ≤ c.toNat && c.toNat < 0x2C00) && c != '×' && c != '÷' &&
    c.toNat < 0x1F000 && !Text.isSpace c
  c == '_' || c.isAlpha || isForeign || (!first && (c == '.' || c == '[' || c == ']' || c.isDigit))

def nameSigns : Nat → Text → Read Text
  | 0, t => return t.reverse
  | n + 1, t => do
    match ← peek? with
    | none => failBefore .openName
    | some '>' => return t.reverse
    | some c =>
      if !isNameSign t.isEmpty c then failHere .badName
      bump
      nameSigns n (c :: t)

def groupName : Read Unit := do
  let start ← place
  let name ← nameSigns ((← get).rest.length + 1) []
  let span ← since start
  bump
  if name = [] then fail .emptyName ⟨start, start⟩
  match (← get).names.lookup name with
  | some other => fail .repeatedName span other
  | none => modify fun s => { s with names := s.names ++ [(name, span)] }

/-- Reads flags up to `:` or `)`: what stands where. -/
def flags : Nat → List (Char × Span) → Read (List (Char × Span))
  | 0, found => return found
  | n + 1, found => do
    match ← peek? with
    | none => failBefore .openFlags
    | some c =>
      if c = ':' ∨ c = ')' then
        match found.getLast? with
        | some ('-', span) => fail .danglingMinus span
        | _ => return found
      let span ← here
      if c ≠ '-' ∧ !"imsUuRx".toList.contains c then fail .unknownFlag span
      match found.lookup c with
      | some other => fail (if c = '-' then .repeatedMinus else .repeatedFlag) span other
      | none => pure ()
      bump
      if ← isAtEnd then failBefore .openFlags
      flags n (found ++ [(c, span)])

/-- Whether flags set something; nothing if they leave it as it is. -/
def setting? (flag : Char) (found : List (Char × Span)) : Option Bool :=
  let before := found.takeWhile (·.1 != '-')
  if before.any (·.1 == flag) then some true
  else if found.any (·.1 == flag) then some false
  else none

/-- Reads how a group begins, or flags that hold from here on. -/
def openGroup : Read Unit := do
  let opening ← here
  bump
  bumpSpace
  let enter (spaced unicode : Bool) : Read Unit :=
    modify fun s => { s with
      groups := ⟨opening, s.spaced, s.unicode⟩ :: s.groups, spaced, unicode, repeatable := false }
  for t in ["?=", "?!", "?<=", "?<!"] do
    if ← bumpIf t then failSince .lookAround opening.start
  let inner ← since (← place)
  let s ← get
  let isNamed ← (do if ← bumpIf "?P<" then return true else bumpIf "?<")
  if isNamed then
    groupName
    enter s.spaced s.unicode
  else if ← bumpIf "?" then
    if ← isAtEnd then fail .openGroup opening
    let found ← flags ((← get).rest.length + 1) []
    let isAlone := (← peek?) = some ')'
    bump
    let spaced := (setting? 'x' found).getD s.spaced
    let unicode := (setting? 'u' found).getD s.unicode
    if isAlone then
      if found = [] then fail .nothingRepeated inner
      modify fun s => { s with spaced, unicode, repeatable := false }
    else enter spaced unicode
  else enter s.spaced s.unicode

def closeGroup : Read Unit := do
  match (← get).groups with
  | [] => failHere .noGroup
  | g :: groups =>
    bump
    modify fun s =>
      { s with groups, spaced := g.spaced, unicode := g.unicode, repeatable := true }

/-! ### Repetition -/

def decimalDigits : Nat → Text → Read Text
  | 0, t => return t.reverse
  | n + 1, t => do
    match ← peek? with
    | none => return t.reverse
    | some c =>
      if !c.isDigit then return t.reverse
      bumpFully
      decimalDigits n (c :: t)

def skipBlanks : Read Unit := do
  for _ in (← get).rest.takeWhile Text.isSpace do bump

/-- Reads how often something is to be repeated. What is wrong with the number is handed back. -/
def count : Read (Except Fault Nat) := do
  skipBlanks
  let start ← place
  let t ← decimalDigits ((← get).rest.length + 1) []
  let span ← since start
  skipBlanks
  bumpSpace
  match Text.natural? t with
  | none => return .error ⟨.noCount, span, none⟩
  | some n => return if n < Nat.pow 2 32 then .ok n else .error ⟨.badNumber, span, none⟩

/-- A number that may have been handed back as wrong. -/
def certain : Except Fault Nat → Read Nat
  | .ok n => return n
  | .error fault => throw fault

def checkRepeatable : Read Unit := do
  if !(← get).repeatable then failBefore .nothingRepeated

def repetition : Read Unit := do
  checkRepeatable
  let start ← place
  let check : Read Unit := do
    if ← isAtEnd then failSince .openCount start
  bumpFully
  check
  let least ← count
  check
  let isOrdered ← (do
    if (← peek?) ≠ some ',' then
      let _ ← certain least
      return true
    bumpFully
    check
    if (← peek?) = some '}' then
      let _ ← certain least
      return true
    let least ← certain least
    let most ← certain (← count)
    return least ≤ most : Read Bool)
  if (← peek?) ≠ some '}' then failSince .openCount start
  bumpFully
  if (← peek?) = some '?' then bump
  if !isOrdered then failSince .countOrder start

/-! ### Filters -/

/-- Reads the parts of a filter, one after the other. -/
def parts : Nat → Read Unit
  | 0 => return ()
  | fuel + 1 => do
    bumpSpace
    match ← peek? with
    | none => return ()
    | some c =>
      match c with
      | '(' => openGroup
      | ')' => closeGroup
      | '|' =>
        bump
        modify ({ · with repeatable := false })
      | '[' =>
        readClass ((← get).rest.length + 1) []
        modify ({ · with repeatable := true })
      | '?' | '*' | '+' =>
        checkRepeatable
        bump
        if (← peek?) = some '?' then bump
      | '{' => repetition
      | _ =>
        let (p, span) ← primitive false
        examine p span false
        modify ({ · with repeatable := true })
      parts fuel

def filter : Read Unit := do
  parts ((← get).rest.length + 1)
  match (← get).groups with
  | [] =>
    match (← get).meaningless with
    | some fault => throw fault
    | none => return ()
  | g :: _ => fail .openGroup g.opening

end Read

def filterFault? (pattern : Text) : Option Fault :=
  match Read.filter.run { rest := pattern } with
  | .ok _ _ => none
  | .error fault _ => some fault

end LineShell.LogSpec
