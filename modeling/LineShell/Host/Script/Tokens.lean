import LineShell.Host.Script.Scan

/-! Cutting a script into tokens. What a word means depends on where it stands. -/
namespace LineShell.Script

structure Look where
  /-- Line ends in front of it do not count. -/
  newlines : Bool := false
  keywords : Bool := false
  aliases : Bool := false

namespace Look

def start : Look := ⟨false, true, true⟩

def startBelow : Look := ⟨true, true, true⟩

end Look

/-- The operators, longer ones before those that they begin with. -/
def operators : List Text :=
  ["&&", "||", ";;", "&", "|", ";", "(", ")"].map String.toList

/-- The operators of redirections, longer ones before those that they begin with. -/
def redirectionOperators : List Text :=
  ["<<-", "<<", "<&", "<>", "<", ">>", ">&", ">|", ">"].map String.toList

/-- Skips blanks and a comment, and gives the text behind them. -/
def skipBlanks : Nat → Parse Text
  | 0 => Parse.upcoming
  | n + 1 => do
    match ← Parse.look with
    | [] => return []
    | c :: rest =>
      if c = ' ' ∨ c = '\t' then
        Parse.skip 1
        skipBlanks n
      else if c = '#' then
        Parse.skip ((rest.takeWhile (· != '\n')).length + 1)
        skipBlanks n
      else return c :: rest

/-- The operator of a redirection that the text starts with, its descriptor, and its length. -/
def redirectionAt? (t : Text) : Option (Nat × Text × Nat) :=
  let (digits, rest) := match t with
    | c :: rest => if c.isDigit then ([c], rest) else ([], t)
    | [] => ([], [])
  (redirectionOperators.find? (·.isPrefixOf rest)).map fun operator =>
    let usual := if operator.head? = some '<' then 0 else 1
    ((Text.natural? digits).getD usual, operator, digits.length + operator.length)

def readDocuments (inner : Inner) : Parse Unit := do
  let pending := (← get).pending
  modify ({ · with pending := [] })
  for document in pending do
    let body ← scanDocument inner document 1000000 []
    modify fun s => { s with documents := (document.number, body) :: s.documents }

/-- The next token, or the one that was given back. -/
def rawToken (inner : Inner) : Parse Token := do
  match (← get).returned with
  | some token =>
    modify ({ · with returned := none })
    return token
  | none =>
    match ← skipBlanks 1000000 with
    | [] => return .endOfFile
    | '\n' :: _ =>
      Parse.take '\n'
      return .newline
    | t =>
      match operators.find? (·.isPrefixOf t) with
      | some operator =>
        Parse.skip operator.length
        return .operator operator
      | none =>
        match redirectionAt? t with
        | some (descriptor, operator, length) =>
          Parse.skip length
          return .redirection descriptor operator
        | none => return .word (← scan inner 1000000 .bare [])

def giveBack (token : Token) : Parse Unit := modify ({ · with returned := some token })

/-- The next token, where at most so many aliases lead from one to the other. -/
def tokenAfter (inner : Inner) (look : Look) : Nat → Parse Token
  | 0 => return .endOfFile
  | n + 1 => do
    let token ← rawToken inner
    let aliases := look.aliases || (← get).expectsAlias
    modify ({ · with expectsAlias := false })
    match token with
    | .newline =>
      if look.newlines then
        readDocuments inner
        tokenAfter inner look n
      else return token
    | .word word =>
      match plain? word with
      | none => return token
      | some name =>
        if look.keywords ∧ keywords.contains name then return .keyword name
        else
          let s ← get
          match s.aliases.lookup name with
          | none => return token
          | some text =>
            if aliases ∧ !Parse.isActive s name then
              Parse.enter name text
              tokenAfter inner look n
            else return token
    | token => return token

def token (inner : Inner) (look : Look) : Parse Token := tokenAfter inner look 1000000

end LineShell.Script
