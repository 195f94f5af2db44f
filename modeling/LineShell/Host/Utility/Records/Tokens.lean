import LineShell.Host.Utility.Records.Matching
import LineShell.Host.Utility.Records.Syntax

/-!
The text of a report in tokens. What a character means depends on what has been read: a line ends a
statement or not, and `>` compares or leads to a file.
-/
namespace LineShell.Records

inductive Token
  | finish
  | lineEnd
  | semicolon
  /-- A brace ends a statement that has no other end. -/
  | implied
  | sign (t : String)
  /-- The output of a statement goes where the following says. -/
  | output (outlet : Outlet)
  /-- A record is taken from what follows. -/
  | input
  | number (q : Quantity) (t : Text)
  | text (t : Text)
  | pattern (t : Text)
  | name (t : Text)
  | function (t : Text)
  | builtin (t : Text)
  | keyword (t : Text)
  | field (number : Nat)
  | fieldCount
  | stray (c : Char)
  deriving DecidableEq

namespace Token

def shown : Token → Text
  | .finish => "end of file".toList
  | .lineEnd => "end of line".toList
  | .semicolon => [';']
  | .implied => ['\x7d']
  | .sign t => t.toList
  | .output .replace => ['>']
  | .output .append => ">>".toList
  | .output .pipe => ['|']
  | .input => ['<']
  | .number _ t | .text t | .name t | .function t | .builtin t | .keyword t => t
  | .pattern t => '/' :: t ++ ['/']
  | .field _ | .fieldCount => ['$']
  | .stray c => [c]

/-- Whether a parenthesis that is still open here has been forgotten. -/
def endsParentheses : Token → Bool
  | .finish | .lineEnd | .semicolon | .implied => true
  | t => t == .sign "\x7d"

/-- Whether a brace that is still open here has been forgotten. -/
def endsBraces : Token → Bool
  | .finish => true
  | .keyword t => t == "BEGIN".toList || t == "END".toList
  | _ => false

def isOperand : Token → Bool
  | .number .. | .text _ | .name _ | .pattern _ | .field _ | .fieldCount => true
  | .keyword t => t == "getline".toList
  | t => t == .sign ")" || t == .sign "]"

/-- Whether a statement has ended in front of a closing brace. -/
def endsStatement : Token → Bool
  | .lineEnd | .semicolon | .implied => true
  | t => t == .sign "\x7d"

end Token

inductive Kind
  /-- It has only been passed on so far. -/
  | unknown
  | scalar
  | array
  | function
  deriving DecidableEq

/-- A function as far as it has been read. -/
structure Draft where
  name : Text
  parameters : Array Kind := #[]
  body : Option Statement := none

/-- A variable of the whole report, or a parameter of the function of a number. -/
abbrev Place := Option Nat × Nat

/-- A call whose arguments are names, which may stand for arrays. -/
structure Call where
  function : Nat
  /-- How many arguments there are. -/
  count : Nat
  /-- The arguments that are names, by their positions; another one is no array. -/
  names : List (Nat × Option Place)
  line : Nat

structure Reading where
  rest : Text
  /-- The names and texts that follow. -/
  later : List (Text × Text) := []
  /-- The name of the text. -/
  file : Option Text := none
  line : Nat := 1
  /-- The line of the last token. -/
  tokenLine : Nat := 1
  last : Token := .finish
  /-- The tokens that have been looked at and not been used. -/
  ahead : List Token := []
  parentheses : Nat := 0
  braces : Nat := 0
  /-- A statement prints, and where has not been said yet. -/
  prints : Bool := false
  /-- A record is taken, and from where has not been said yet. -/
  takes : Bool := false
  /-- What is wrong; the last message comes first. -/
  complaints : List Text := []
  names : Array Text := #[]
  kinds : Array Kind := #[]
  drafts : Array Draft := #[]
  /-- The function that is read, and its parameters. -/
  inside : Option Nat := none
  parameters : List Text := []
  calls : List Call := []
  /-- How many loops there are around. -/
  loops : Nat := 0
  /-- What is read is done for records. -/
  isRule : Bool := true

inductive Stop
  /-- At this token, behind which reading may go on. -/
  | misplaced
  | given
  deriving DecidableEq

abbrev Read := EStateM Stop Reading

namespace Read

def complaintLimit : Nat := 5

def complainPlainly (message : Text) : Read Unit := do
  modify fun r => { r with complaints := message :: r.complaints }
  if complaintLimit ≤ (← get).complaints.length then throw .given

/-- Adds a complaint about the line of the last token. -/
def complain (message : Text) : Read Unit := do
  let r ← get
  let front := match r.file with
    | some name => name ++ ": ".toList
    | none => []
  complainPlainly (front ++ "line ".toList ++ Text.decimal r.tokenLine ++ ": ".toList ++ message)

def giveUp {α : Type} (message : Text) : Read α := do
  complain message
  throw .given

/-! ### Characters -/

def enter : Read Unit := do
  let r ← get
  match r.rest, r.later with
  | [], (name, t) :: later => set { r with rest := t, later, file := some name, line := 1 }
  | _, _ => return ()

def peekChar : Read (Option Char) := do
  enter
  return (← get).rest.head?

def drop (n : Nat) : Read Unit := modify fun r => { r with rest := r.rest.drop n }

def accept (t : String) : Read Bool := do
  if t.toList.isPrefixOf (← get).rest then
    drop t.length
    return true
  else return false

def countLine : Read Unit := modify fun r => { r with line := r.line + 1 }

def limit : Nat := 1000000000

/-- Skips space and comments, and the ends of lines if `crossing` says so. -/
def skipSpace (crossing : Bool) : Nat → Read Unit
  | 0 => return ()
  | fuel + 1 => do
    match ← peekChar with
    | none => return ()
    | some c =>
      if isBlank c then
        drop 1
        skipSpace crossing fuel
      else if c = '#' then
        modify fun r => { r with rest := r.rest.dropWhile (· != '\n') }
        skipSpace crossing fuel
      else if c = '\n' ∧ crossing then
        countLine
        drop 1
        skipSpace crossing fuel
      else if c = '\\' then
        match ((← get).rest.drop 1).dropWhile isBlank with
        | '\n' :: rest =>
          countLine
          modify ({ · with rest })
          skipSpace crossing fuel
        | _ => return ()
      else return ()

def skipLines : Read Unit := skipSpace true limit

def skipSemicolon : Read Unit := do
  skipSpace false limit
  let _ ← accept ";"

/-! ### Longer tokens -/

def takeText : Nat → Text → Read Text
  | 0, found => return found.reverse
  | fuel + 1, found => do
    match (← get).rest with
    | '"' :: rest =>
      modify ({ · with rest })
      return found.reverse
    | '\\' :: '\n' :: rest =>
      countLine
      modify ({ · with rest })
      takeText fuel found
    | '\\' :: c :: rest =>
      modify ({ · with rest })
      takeText fuel (c :: '\\' :: found)
    | c :: rest =>
      if c = '\n' then stopAt found
      else
        modify ({ · with rest })
        takeText fuel (c :: found)
    | [] => stopAt found
where
  /-- Complains about a text without end. -/
  stopAt (found : Text) : Read Text :=
    giveUp ("runaway string constant \"".toList ++ found.reverse.take 10 ++ " ...".toList)

/-- Takes the text of an expression behind its opening slash; `inSet` is how many characters of a
set have been read. -/
def takePattern : Nat → Option Nat → Text → Read Text
  | 0, _, found => return found.reverse
  | fuel + 1, inSet, found => do
    let next := inSet.map (· + 1)
    match (← get).rest with
    | '\\' :: '\n' :: rest =>
      countLine
      modify ({ · with rest })
      takePattern fuel inSet found
    | '\\' :: '/' :: rest =>
      modify ({ · with rest })
      takePattern fuel next ('/' :: found)
    | '\\' :: c :: rest =>
      modify ({ · with rest })
      takePattern fuel next (c :: '\\' :: found)
    | c :: rest =>
      if c = '\n' then stopAt found
      else
        modify ({ · with rest })
        match inSet with
        | none =>
          if c = '/' then return found.reverse
          else takePattern fuel (if c = '[' then some 0 else none) (c :: found)
        | some n =>
          if c = '^' ∧ n = 0 ∧ found.head? = some '[' then takePattern fuel (some 0) (c :: found)
          else if c = ']' ∧ 0 < n then takePattern fuel none (c :: found)
          else if c = '[' ∧ rest.head? = some ':' then
            let name := (rest.drop 1).takeWhile Char.isAlpha
            if ":]".toList.isPrefixOf (rest.drop (name.length + 1)) then
              modify fun r => { r with rest := r.rest.drop (name.length + 3) }
              takePattern fuel next ("]:".toList ++ name.reverse ++ ":[".toList ++ found)
            else takePattern fuel next (c :: found)
          else takePattern fuel next (c :: found)
    | [] => stopAt found
where
  /-- Complains about an expression without end. -/
  stopAt (found : Text) : Read Text :=
    giveUp ("runaway regular expression /".toList ++ found.reverse.take 10 ++ " ...".toList)

/-- The characters that a text between quotes writes. -/
def unescape : Nat → Text → Text
  | 0, t => t
  | _ + 1, [] => []
  | fuel + 1, '\\' :: c :: rest =>
    let isHex := c == 'x' && rest.head?.any (hexValue? · |>.isSome)
    if ('0' ≤ c ∧ c ≤ '7') ∨ "\"\\abfnrtv".toList.contains c ∨ isHex then
      let (c, rest) := readEscape (c :: rest)
      c :: unescape fuel rest
    else '\\' :: c :: unescape fuel rest
  | fuel + 1, c :: rest => c :: unescape fuel rest

/-- The text of a number in front, with an exponent if there are digits behind its letter. -/
def numberText (t : Text) : Text :=
  let whole := t.takeWhile Char.isDigit
  let (front, rest) : Text × Text := match t.drop whole.length with
    | '.' :: rest =>
      let digits := rest.takeWhile Char.isDigit
      (whole ++ '.' :: digits, rest.drop digits.length)
    | rest => (whole, rest)
  match rest with
  | e :: rest =>
    if e = 'e' ∨ e = 'E' then
      let sign := (rest.take 1).takeWhile fun c => c == '+' || c == '-'
      let digits := (rest.drop sign.length).takeWhile Char.isDigit
      if digits = [] then front else front ++ e :: sign ++ digits
    else front
  | [] => front

/-- Takes a number, and complains about one that is too large or too small. -/
def takeNumber : Read (Quantity × Text) := do
  let t := numberText (← get).rest
  drop t.length
  match Quantity.read .double t with
  | some ⟨q, _, isOutOfRange⟩ =>
    if isOutOfRange then
      let way := match q with
        | .infinite _ => "overflow"
        | _ => "underflow"
      complain (t ++ " : decimal ".toList ++ way.toList)
    return (q, t)
  | none => return (.ofNat 0, t)

/-! ### Names -/

def keywords : List String :=
  ["BEGIN", "END", "break", "continue", "delete", "do", "else", "exit", "for", "function", "getline",
    "gsub", "if", "in", "match", "next", "nextfile", "print", "printf", "return", "split", "sub",
    "while"]

/-- The number of a function, if there is one of this name. -/
def functionOf? (t : Text) : Read (Option Nat) :=
  return (← get).drafts.findIdx? (·.name == t)

/-- Adds a function of which nothing is known but its name. -/
def addFunction (t : Text) : Read Nat := do
  let n := (← get).drafts.size
  modify fun r => { r with drafts := r.drafts.push { name := t } }
  return n

def classify (t : Text) : Read Token := do
  let r ← get
  let isCalled := r.rest.head? == some '('
  if r.parameters.contains t then return .name t
  else if keywords.any (·.toList == t) then return .keyword t
  else if t = "NF".toList then return .fieldCount
  else if t = "length".toList then
    let isCalled := (r.rest.dropWhile isBlank).head? == some '('
    return if isCalled then .builtin t else .keyword t
  else if builtins.any (·.1.toList == t) then return .builtin t
  else if r.names.contains t then return .name t
  else if (← functionOf? t).isSome then return .function t
  else if isCalled then
    let _ ← addFunction t
    return .function t
  else return .name t

/-! ### Tokens -/

/-- The signs of two characters and of one, of which the longer ones come first. -/
def signs : List String :=
  ["++", "--", "+=", "-=", "*=", "%=", "^=", "==", "<=", "!=", "!~", "&&", "||", ">=", "(", ")", "[",
    "]", "\x7b", ",", "?", ":", "=", "+", "-", "*", "%", "^", "<", ">", "!", "~", "|"]

/-- Takes a sign. What it does to the lines and parentheses around is done. -/
def takeSign (c : Char) : Read Token := do
  let r ← get
  if c = '>' ∧ r.prints ∧ r.parentheses = 0 then
    modify ({ · with prints := false })
    if ← accept ">>" then return .output .append
    drop 1
    return .output .replace
  if c = '|' ∧ r.prints ∧ r.parentheses = 0 ∧ !("||".toList.isPrefixOf r.rest) then
    modify ({ · with prints := false })
    drop 1
    return .output .pipe
  match signs.find? fun s => s.toList.isPrefixOf r.rest with
  | none =>
    drop 1
    return .stray c
  | some s =>
    drop s.length
    match s with
    | "," | "&&" | "||" => skipLines
    | "\x7b" =>
      skipLines
      modify fun r => { r with braces := r.braces + 1 }
    | "(" => modify fun r => { r with parentheses := r.parentheses + 1 }
    | _ => pure ()
    if s = "<" ∧ r.takes then
      modify ({ · with takes := false })
      return .input
    return .sign s

/-- Takes a token that is not the end of something. -/
def takeOther (c : Char) : Read Token := do
  let r ← get
  if c.isDigit ∨ c = '.' then
    if c = '.' ∧ !(r.rest.drop 1).head?.any Char.isDigit then
      drop 2
      return .stray '.'
    let (q, t) ← takeNumber
    return .number q t
  else if c.isAlpha ∨ c = '_' then
    let t := r.rest.takeWhile fun c => c.isAlphanum || c == '_'
    drop t.length
    classify t
  else if c = '"' then
    drop 1
    let t ← takeText limit []
    return .text (unescape (t.length + 1) t)
  else if c = '/' then
    drop 1
    if r.last.isOperand then
      return .sign (if ← accept "=" then "/=" else "/")
    else if r.last = .sign "++" ∨ r.last = .sign "--" then
      if (← peekChar) ≠ some '=' then drop 1
      return .pattern (← takePattern limit none [])
    else return .pattern (← takePattern limit none [])
  else if c = '$' then
    drop 1
    modify fun r => { r with rest := r.rest.dropWhile isBlank }
    match (← get).rest with
    | d :: more =>
      if d.isDigit ∨ (d = '.' ∧ more.head?.any Char.isDigit) then
        let (q, _) ← takeNumber
        return .field (q.toIntWithin 0 (Int.pow 2 31 - 1)).toNat
      else return .sign "$"
    | [] => return .sign "$"
  else takeSign c

def takeToken : Nat → Read Token
  | 0 => return .finish
  | fuel + 1 => do
    skipSpace false limit
    modify fun r => { r with tokenLine := r.line }
    match ← peekChar with
    | none => return .finish
    | some '\n' =>
      countLine
      drop 1
      skipLines
      return .lineEnd
    | some ';' =>
      drop 1
      skipLines
      return .semicolon
    | some ')' =>
      drop 1
      let r ← get
      if r.parentheses = 0 then
        complain "extra ')'".toList
        takeToken fuel
      else
        set { r with parentheses := r.parentheses - 1 }
        return .sign ")"
    | some c =>
      if c ≠ '\x7d' then takeOther c
      else
        let r ← get
        if r.braces = 0 then
          complain "extra '\x7d'".toList
          drop 1
          skipSemicolon
          takeToken fuel
        else if r.last.endsStatement then
          drop 1
          modify fun r => { r with braces := r.braces - 1 }
          if r.braces = 1 then skipSemicolon
          skipLines
          return .sign "\x7d"
        else return .implied

def peek : Read Token := do
  match (← get).ahead with
  | token :: _ => return token
  | [] =>
    let token ← takeToken limit
    modify ({ · with ahead := [token], last := token })
    return token

def skip : Read Unit := do
  let _ ← peek
  modify fun r => { r with ahead := r.ahead.drop 1 }

def putBack (token : Token) : Read Unit := modify fun r => { r with ahead := token :: r.ahead }

def refuse {α : Type} : Read α := do
  let token ← peek
  let r ← get
  let missing (c : Char) : Read Unit :=
    complain ("missing ".toList ++ c :: " near ".toList ++ token.shown)
  if let .stray c := token then
    let shown := if ' ' < c ∧ c < '\x7f' then ['\'', c, '\'']
      else "0x".toList ++ { flags := ['0'], width := 2 : Directive }.unsigned 'x' c.toNat
    complainPlainly (Text.decimal r.tokenLine ++ ": unexpected character ".toList ++ shown)
  else if 0 < r.parentheses ∧ token.endsParentheses then
    missing ')'
    modify ({ · with parentheses := 0 })
  else if 0 < r.braces ∧ token.endsBraces then
    missing '\x7d'
    modify ({ · with braces := 0 })
  else complain ("syntax error at or near ".toList ++ token.shown)
  throw .misplaced

def isNext (s : String) : Read Bool := return (← peek) == .sign s

def acceptSign (s : String) : Read Bool := do
  if ← isNext s then
    skip
    return true
  else return false

def expect (s : String) : Read Unit := do if !(← acceptSign s) then refuse

def acceptKeyword (t : String) : Read Bool := do
  if (← peek) == .keyword t.toList then
    skip
    return true
  else return false

end Read
end LineShell.Records
