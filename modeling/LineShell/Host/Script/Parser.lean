import LineShell.Host.Script.Tokens

/-! Reading commands. -/
namespace LineShell.Script

def specialNames : List Text :=
  [".", ":", "break", "continue", "eval", "exec", "exit", "export", "local", "readonly", "return",
    "set", "shift", "times", "trap", "unset"].map String.toList

def allArguments : Word := [.parameter ['@'] .value true]

def sourceText (word : Word) : Text :=
  word.flatMap fun
    | .literal text _ => text
    | .parameter name _ _ => '$' :: name
    | _ => []

def hasQuotes (word : Word) : Bool :=
  word.any fun
    | .literal _ quoted | .parameter _ _ quoted | .output _ quoted | .arithmetic _ quoted => quoted

/-- Reads what stands behind the operator of a redirection. -/
def parseTarget (inner : Inner) (descriptor : Nat) (operator : Text) : Parse Redirection := do
  match ← token inner {} with
  | .word word =>
    if operator = ['<'] then return .mk descriptor (.input word)
    else if operator = ['<', '>'] then return .mk descriptor (.both word)
    else if operator = ['>', '>'] then return .mk descriptor (.append word)
    else if operator = ['<', '&'] ∨ operator = ['>', '&'] then
      return .mk descriptor (.descriptor word)
    else if operator = ['<', '<'] ∨ operator = ['<', '<', '-'] then
      let s ← get
      let document :=
        { number := s.documents.length + s.pending.length, mark := sourceText word,
          stripped := operator.getLast? = some '-', literal := hasQuotes word }
      modify fun s => { s with pending := s.pending ++ [document] }
      return .mk descriptor (.document document.number)
    else return .mk descriptor (.output word)
  | other => Parse.unexpected other none

/-- Reads the redirections behind a command that is no simple one. -/
def parseRedirections (inner : Inner) : Nat → List Redirection → Parse (List Redirection)
  | 0, done => return done
  | n + 1, done => do
    match ← token inner .start with
    | .redirection descriptor operator =>
      let r ← parseTarget inner descriptor operator
      parseRedirections inner n (done ++ [r])
    | other =>
      giveBack other
      return done

def expectToken (inner : Inner) (look : Look) (expected : Text) : Parse Unit := do
  let t ← token inner look
  match t with
  | .keyword text | .operator text =>
    if text = expected then return () else Parse.unexpected t (some expected)
  | _ => Parse.unexpected t (some expected)

def expectKeyword (inner : Inner) (look : Look) (expected : String) : Parse Unit :=
  expectToken inner look expected.toList

/-- The words up to the next other token, and that token. -/
def parseItems (inner : Inner) : Nat → List Word → Parse (List Word × Token)
  | 0, items => return (items, .endOfFile)
  | n + 1, items => do
    match ← token inner {} with
    | .word word => parseItems inner n (items ++ [word])
    | other => return (items, other)

/-- The patterns of a choice, from the first one on, up to the closing bracket. -/
def parsePatterns (inner : Inner) : Nat → Token → Parse (List Word)
  | 0, t => Parse.unexpected t none
  | n + 1, t => do
    let pattern : Word := match t with
      | .word word => word
      | .keyword text => [.literal text false]
      | _ => []
    let behind ← token inner {}
    match behind with
    | .operator ['|'] => return pattern :: (← parsePatterns inner n (← token inner {}))
    | .operator [')'] => return [pattern]
    | other => Parse.unexpected other (some [')'])

/-- A simple command that is being read. -/
structure Draft where
  assignments : List Word := []
  words : List Word := []
  redirections : List Redirection := []

def Command.andThen : Command → Command → Command
  | .nothing, second => second
  | first, second => .sequence first second

mutual

def parseBlock (inner : Inner) : Nat → Bool → Command → Parse Command
  | 0, _, before => return before
  | n + 1, required, before => do
    let t ← token inner .startBelow
    giveBack t
    if t matches .endOfFile then
      readDocuments inner
      return before
    else if !required ∧ t.closes then return before
    else
      let command ← parseChain inner n {}
      let t ← token inner {}
      let command := match t with
        | .operator ['&'] => .background command
        | _ => command
      let before := before.andThen command
      match t with
      | .operator [';'] | .operator ['&'] => parseBlock inner n false before
      | .newline =>
        giveBack t
        parseBlock inner n false before
      | _ =>
        giveBack t
        return before

def parseChain (inner : Inner) : Nat → Look → Parse Command
  | 0, _ => return .nothing
  | n + 1, look => do
    let first ← parsePipeline inner n look
    parseChainRest inner n first

/-- Reads what follows the first commands of a chain of `&&` and `||`. -/
def parseChainRest (inner : Inner) : Nat → Command → Parse Command
  | 0, first => return first
  | n + 1, first => do
    match ← token inner {} with
    | .operator ['&', '&'] =>
      let second ← parsePipeline inner n .startBelow
      parseChainRest inner n (.and first second)
    | .operator ['|', '|'] =>
      let second ← parsePipeline inner n .startBelow
      parseChainRest inner n (.or first second)
    | other =>
      giveBack other
      return first

/-- Commands joined by `|`, or the negation of them. -/
def parsePipeline (inner : Inner) : Nat → Look → Parse Command
  | 0, _ => return .nothing
  | n + 1, look => do
    let t ← token inner look
    if t matches .keyword ['!'] then
      return .negation (← parsePiped inner n .start)
    else
      giveBack t
      parsePiped inner n {}

def parsePiped (inner : Inner) : Nat → Look → Parse Command
  | 0, _ => return .nothing
  | n + 1, look => do
    let first ← parseCommand inner n look
    match ← parsePipedRest inner n with
    | [] => return first
    | rest => return .pipeline (first :: rest)

def parsePipedRest (inner : Inner) : Nat → Parse (List Command)
  | 0 => return []
  | n + 1 => do
    match ← token inner {} with
    | .operator ['|'] =>
      let next ← parseCommand inner n .startBelow
      return next :: (← parsePipedRest inner n)
    | other =>
      giveBack other
      return []

def parseCommand (inner : Inner) : Nat → Look → Parse Command
  | 0, _ => return .nothing
  | n + 1, look => do
    let line := (← get).line
    let t ← token inner look
    match t with
    | .word _ | .redirection .. =>
      giveBack t
      parseSimple inner n (← get).line {}
    | .operator ['('] =>
      let body ← parseBlock inner n true .nothing
      expectToken inner {} [')']
      return .subshell line body (← parseRedirections inner n [])
    | .keyword text =>
      let body ← parseCompound inner n line t (String.ofList text)
      match ← parseRedirections inner n [] with
      | [] => return body
      | redirections =>
        return match body with
          | .subshell line inner _ => .subshell line inner redirections
          | body => .redirected line body redirections
    | _ => Parse.unexpected t none

/-- A command that begins with a keyword or a parenthesis. -/
def parseCompound (inner : Inner) : Nat → Nat → Token → String → Parse Command
  | 0, _, _, _ => return .nothing
  | n + 1, line, t, keyword => do
    match keyword with
    | "if" => parseConditional inner n
    | "while" => parseLoop inner n true
    | "until" => parseLoop inner n false
    | "for" => parseEach inner n line
    | "case" =>
      match ← token inner {} with
      | .word word =>
        expectKeyword inner .startBelow "in"
        return .choice line word (← parseChoices inner n)
      | other => Parse.unexpected other (some "word".toList)
    | "\x7b" =>
      let body ← parseBlock inner n true .nothing
      expectKeyword inner {} "\x7d"
      return body
    | _ => Parse.unexpected t none

def parseConditional (inner : Inner) : Nat → Parse Command
  | 0 => return .nothing
  | n + 1 => do
    let test ← parseBlock inner n true .nothing
    expectKeyword inner {} "then"
    let body ← parseBlock inner n true .nothing
    let t ← token inner {}
    match t with
    | .keyword text =>
      if text = "elif".toList then return .conditional test body (← parseConditional inner n)
      else if text = "else".toList then
        let otherwise ← parseBlock inner n true .nothing
        expectKeyword inner {} "fi"
        return .conditional test body otherwise
      else if text = "fi".toList then return .conditional test body .nothing
      else Parse.unexpected t (some "fi".toList)
    | _ => Parse.unexpected t (some "fi".toList)

/-- The rest of a loop that runs while or until a test holds. -/
def parseLoop (inner : Inner) : Nat → Bool → Parse Command
  | 0, _ => return .nothing
  | n + 1, expected => do
    let test ← parseBlock inner n true .nothing
    expectKeyword inner {} "do"
    let body ← parseBlock inner n true .nothing
    expectKeyword inner {} "done"
    return .loop test expected body

def parseEach (inner : Inner) : Nat → Nat → Parse Command
  | 0, _ => return .nothing
  | n + 1, line => do
    let name := match ← token inner {} with
      | .word word => (plain? word).filter isName
      | _ => none
    match name with
    | none => Parse.fail "Bad for loop variable".toList
    | some name =>
      let t ← token inner .startBelow
      let items ←
        if t matches .keyword ['i', 'n'] then
          let (items, behind) ← parseItems inner n []
          match behind with
          | .newline | .operator [';'] => pure items
          | other => Parse.unexpected other none
        else
          if !(t matches .operator [';']) then giveBack t
          pure [allArguments]
      expectKeyword inner .startBelow "do"
      let body ← parseBlock inner n true .nothing
      expectKeyword inner {} "done"
      return .each line name items body

def parseChoices (inner : Inner) : Nat → Parse (List (List Word × Command))
  | 0 => return []
  | n + 1 => do
    let look : Look := { newlines := true, keywords := true }
    let t ← token inner look
    if t matches .keyword ['e', 's', 'a', 'c'] then return []
    else
      let first ← if t matches .operator ['('] then token inner {} else pure t
      let patterns ← parsePatterns inner n first
      let body ← parseBlock inner n false .nothing
      let behind ← token inner look
      match behind with
      | .operator [';', ';'] => return (patterns, body) :: (← parseChoices inner n)
      | .keyword ['e', 's', 'a', 'c'] => return [(patterns, body)]
      | other => Parse.unexpected other (some [';', ';'])

/-- Reads the words, assignments and redirections of a simple command, or a function. -/
def parseSimple (inner : Inner) : Nat → Nat → Draft → Parse Command
  | 0, _, _ => return .nothing
  | n + 1, line, draft => do
    let t ← token inner { aliases := draft.words.isEmpty }
    match t with
    | .word word =>
      if draft.words.isEmpty ∧ (assignment? word).isSome then
        parseSimple inner n line { draft with assignments := draft.assignments ++ [word] }
      else parseSimple inner n line { draft with words := draft.words ++ [word] }
    | .redirection descriptor operator =>
      let r ← parseTarget inner descriptor operator
      parseSimple inner n line { draft with redirections := draft.redirections ++ [r] }
    | _ =>
      match t, draft with
      | .operator ['('], ⟨[], [word], []⟩ =>
        expectToken inner {} [')']
        match plain? word with
        | none => Parse.fail "Bad function name".toList
        | some name =>
          if !isName name ∨ specialNames.contains name then
            Parse.fail "Bad function name".toList
          else
            let line := (← get).line
            return .define line name (← parseCommand inner n .startBelow)
      | _, _ =>
        giveBack t
        return .simple line draft.assignments draft.words draft.redirections

end

/-- How deep scripts may stand in the words of one another. -/
def nestingLimit : Nat := 200

/-- How many steps the reading of commands may take from one to the next inside it. -/
def stepLimit : Nat := 1000000

def parseInner : Nat → Inner
  | 0, _ => Parse.fail "Missing ')'".toList
  | depth + 1, closing => do
    let command ← parseBlock (parseInner depth) stepLimit false .nothing
    if closing then expectToken (parseInner depth) {} [')']
    return command

/-- Reads the commands of one line; `none` at the end of the script. -/
def parseLine (inner : Inner) : Nat → Option Command → Parse (Option Command)
  | 0, before => return before
  | n + 1, before => do
    let t ← token inner .start
    match t with
    | .newline =>
      readDocuments inner
      return some (before.getD .nothing)
    | .endOfFile =>
      readDocuments inner
      giveBack t
      return before
    | _ =>
      giveBack t
      let command ← parseChain inner stepLimit {}
      let t ← token inner {}
      let command := match t with
        | .operator ['&'] => .background command
        | _ => command
      let before := (before.getD .nothing).andThen command
      match t with
      | .operator [';'] | .operator ['&'] => parseLine inner n (some before)
      | .newline | .endOfFile =>
        giveBack t
        parseLine inner n (some before)
      | other => Parse.unexpected other none

/-- Reads as many lines as make up the next complete command. -/
def parseNext : Parse (Option Command) := parseLine (parseInner nestingLimit) stepLimit none

end LineShell.Script
