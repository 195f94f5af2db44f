import LineShell.Host.Script.Source

/-! Reading words: quotes, and the expansions that a dollar sign or a backquote begins. -/
namespace LineShell.Script

/-- What the text that is being read stands in. -/
inductive Setting
  /-- A word outside quotes. -/
  | bare
  | quotes
  /-- The word behind the operator of a parameter. -/
  | braces (quoted : Bool)
  | document
  /-- An expression, inside this many round brackets. -/
  | expression (depth : Nat)
  deriving DecidableEq

namespace Setting

def isQuoted : Setting → Bool
  | .bare | .braces false => false
  | _ => true

/-- The characters that lose their meaning behind a backslash. -/
def escapable : Setting → List Char
  | .quotes | .expression _ => ['$', '\x60', '"', '\\']
  | .braces _ => ['$', '\x60', '"', '\\', '\x7d']
  | _ => ['$', '\x60', '\\']

/-- What a missing end is reported as. A document needs none for its quotes. -/
def complaint (inDocument : Bool) : Setting → Text
  | .braces false => "Missing '\x7d'".toList
  | .expression _ => "Missing '))'".toList
  | _ =>
    if inDocument then "Missing '\x7d'".toList else "Unterminated quoted string".toList

end Setting

def isMeta (c : Char) : Bool := " \t\n;&|<>()".toList.contains c

/-- Puts a fragment in front of those read before it, which stand last first. -/
def addFragment (fragment : Fragment) (before : Word) : Word :=
  match fragment, before with
  | .literal a q, .literal b r :: rest =>
    if q = r then .literal (b ++ a) q :: rest else .literal a q :: .literal b r :: rest
  | _, _ => fragment :: before

/-- What stands in double quotes. All arguments in quotes are as many fields as there are arguments,
and so none without any; else there is a field even if it is empty. -/
def quotedFragments (inner : Word) : Word :=
  match inner with
  | [.parameter ['@'] .value true] => inner
  | _ => .literal [] true :: inner

/-- The text of single quotes up to the closing one. -/
def singleQuoted : Parse Text := do
  let t ← Parse.upcoming
  let inner := t.takeWhile (· != '\'')
  if inner.length = t.length then
    modify fun s => { s with line := s.line + inner.count '\n' }
    Parse.fail "Unterminated quoted string".toList
  else
    Parse.skip (inner.length + 1)
    modify fun s => { s with line := s.line + inner.count '\n' }
    return inner

def endMissing {α : Type} (setting : Setting) : Parse α := do
  Parse.fail (setting.complaint (← get).inDocument)

/-- The script in backquotes, without the backslashes that protect it. -/
def backquoted (quoted : Bool) : Text → Option (Text × Nat)
  | [] => none
  | '\x60' :: _ => some ([], 1)
  | '\\' :: '\n' :: rest => (backquoted quoted rest).map fun (t, n) => (t, n + 2)
  | '\\' :: c :: rest =>
    (backquoted quoted rest).map fun (t, n) =>
      if c = '\\' ∨ c = '\x60' ∨ c = '$' ∨ (quoted ∧ c = '"') then (c :: t, n + 2)
      else ('\\' :: c :: t, n + 2)
  | c :: rest => (backquoted quoted rest).map fun (t, n) => (c :: t, n + 1)

def parameterName (t : Text) : Text :=
  match t with
  | [] => []
  | c :: _ =>
    if isNameStart c then t.takeWhile isNameRest
    else if c.isDigit then t.takeWhile Char.isDigit
    else if isSpecial c then [c]
    else []

/-- The use behind the name of a parameter, before its word is read: what is made of the word,
whether the word stands outside quotes, and how many characters the operator takes. -/
def useOf (t : Text) : Option ((Word → Use) × Bool × Nat) :=
  match t with
  | ':' :: '-' :: _ => some (.default true, false, 2)
  | ':' :: '+' :: _ => some (.alternative true, false, 2)
  | ':' :: '?' :: _ => some (.require true, false, 2)
  | ':' :: '=' :: _ => some (.assign true, false, 2)
  | '-' :: _ => some (.default false, false, 1)
  | '+' :: _ => some (.alternative false, false, 1)
  | '?' :: _ => some (.require false, false, 1)
  | '=' :: _ => some (.assign false, false, 1)
  | '%' :: '%' :: _ => some (.trim true true, true, 2)
  | '%' :: _ => some (.trim true false, true, 1)
  | '#' :: '#' :: _ => some (.trim false true, true, 2)
  | '#' :: _ => some (.trim false false, true, 1)
  | _ => none

/-- Reads the script of an expansion; the flag says whether a closing bracket has to follow it. -/
abbrev Inner := Bool → Parse Command

def parseApart (inner : Inner) (text : Text) : Parse Command := do
  let outer ← get
  set { outer with
    text, line := 1, layers := [], finished := [], returned := none, inDocument := false }
  let command ← inner false
  modify fun s => { outer with pending := s.pending, documents := s.documents }
  return command

mutual

/-- Reads fragments up to the end of the setting; those read before stand last first. -/
def scan (inner : Inner) : Nat → Setting → Word → Parse Word
  | 0, setting, _ => endMissing setting
  | n + 1, setting, before => do
    match ← Parse.look with
    | [] =>
      if setting = .bare ∨ setting = .document then return before.reverse
      else endMissing setting
    | c :: rest =>
      if c = '$' then
        Parse.skip 1
        let fragment ← scanDollar inner n setting
        scan inner n setting (addFragment fragment before)
      else if c = '\x60' then
        match backquoted setting.isQuoted rest with
        | none =>
          modify fun s => { s with line := s.line + rest.count '\n' }
          Parse.fail "EOF in backquote substitution".toList
        | some (text, length) =>
          Parse.skip (length + 1)
          modify fun s => { s with line := s.line + (rest.take length).count '\n' }
          let command ← parseApart inner text
          scan inner n setting (.output command setting.isQuoted :: before)
      else if c = '\\' then
        Parse.skip 1
        match rest with
        | [] => scan inner n setting (addFragment (.literal [c] setting.isQuoted) before)
        | d :: _ =>
          let kept := setting.isQuoted && !setting.escapable.contains d
          Parse.take d
          let t := if kept then [c, d] else [d]
          scan inner n setting (addFragment (.literal t true) before)
      else if c = '"' ∧ setting ≠ .document ∧ ¬ setting matches .expression _ then
        Parse.skip 1
        if setting = .quotes then return before.reverse
        else
          let fragments ← scan inner n .quotes []
          let fragments := if !setting.isQuoted then quotedFragments fragments
            else if fragments.isEmpty then [.literal [] true]
            else fragments
          scan inner n setting (fragments.foldl (fun w f => addFragment f w) before)
      else if c = '\'' ∧ !setting.isQuoted then
        Parse.skip 1
        let t ← singleQuoted
        scan inner n setting (addFragment (.literal t true) before)
      else if setting = .bare ∧ isMeta c then return before.reverse
      else if setting matches .braces _ ∧ c = '\x7d' then
        Parse.skip 1
        return before.reverse
      else if setting = .document ∧ c = '\n' then
        Parse.take c
        return (addFragment (.literal [c] true) before).reverse
      else
        match setting with
        | .expression depth =>
          Parse.take c
          if c = '(' then
            scan inner n (.expression (depth + 1)) (addFragment (.literal [c] true) before)
          else if c = ')' then
            match depth, ← Parse.look with
            | 0, ')' :: _ =>
              Parse.skip 1
              return before.reverse
            | depth, _ =>
              scan inner n (.expression (depth - 1)) (addFragment (.literal [c] true) before)
          else scan inner n setting (addFragment (.literal [c] true) before)
        | _ =>
          Parse.take c
          let run := (← Parse.upcoming).takeWhile Char.isAlphanum
          Parse.skip run.length
          scan inner n setting (addFragment (.literal (c :: run) setting.isQuoted) before)

def scanDollar (inner : Inner) : Nat → Setting → Parse Fragment
  | 0, setting => endMissing setting
  | n + 1, setting => do
    let quoted := setting.isQuoted
    match ← Parse.look with
    | [] => return .literal ['$'] quoted
    | c :: rest =>
      if c = '(' then
        Parse.skip 1
        match ← Parse.look with
        | '(' :: _ =>
          Parse.skip 1
          return .arithmetic (← scan inner n (.expression 0) []) quoted
        | _ =>
          let outer ← get
          set { outer with returned := none, inDocument := false }
          let command ← inner true
          modify ({ · with returned := outer.returned, inDocument := outer.inDocument })
          return .output command quoted
      else if c = '\x7b' then
        Parse.skip 1
        scanBraces inner n setting
      else if isNameStart c then
        let name := (c :: rest).takeWhile isNameRest
        Parse.skip name.length
        return .parameter name .value quoted
      else if isSpecial c then
        Parse.skip 1
        return .parameter [c] .value quoted
      else return .literal ['$'] quoted

def scanBraces (inner : Inner) : Nat → Setting → Parse Fragment
  | 0, setting => endMissing setting
  | n + 1, setting => do
    let quoted := setting.isQuoted
    let t ← Parse.look
    match t with
    | '#' :: rest =>
      let name := parameterName rest
      if name ≠ [] ∧ (rest.drop name.length).head? = some '\x7d' then
        Parse.skip (name.length + 2)
        return .parameter name .size quoted
      if name = [] ∧ rest.head? ≠ some '\x7d' ∧ rest[1]? = some '\x7d' then
        Parse.skip 3
        return .parameter [] .invalid quoted
    | _ => pure ()
    let name := parameterName t
    Parse.skip name.length
    let t ← Parse.look
    if name ≠ [] ∧ t.head? = some '\x7d' then
      Parse.skip 1
      return .parameter name .value quoted
    else
      match useOf t with
      | some (use, apart, length) =>
        Parse.skip length
        let word ← scan inner n (.braces (quoted && !apart)) []
        return .parameter name (if name = [] then .invalid else use word) quoted
      | none =>
        if name ≠ [] ∨ t.head? = some '\n' then
          Parse.skip (if t.head? = some ':' then 2 else 1)
        let _ ← scan inner n (.braces quoted) []
        return .parameter name .invalid quoted

end

/-- Reads the lines of a document up to the one that marks its end, or to the end of the text. -/
def scanDocument (inner : Inner) (document : Pending) : Nat → Word → Parse Word
  | 0, body => return body
  | n + 1, body => do
    let t ← Parse.upcoming
    let tabs := if document.stripped then (t.takeWhile (· == '\t')).length else 0
    let line := (t.drop tabs).takeWhile (· != '\n')
    let ends := !(t.drop (tabs + line.length)).isEmpty
    if line = document.mark then
      Parse.skip (tabs + line.length)
      if ends then Parse.take '\n'
      return body
    else if t = [] then return body
    else
      Parse.skip tabs
      if document.literal then
        Parse.skip line.length
        if ends then Parse.take '\n'
        let text := if ends then line ++ ['\n'] else line
        scanDocument inner document n (body ++ [.literal text true])
      else
        modify ({ · with inDocument := true })
        let fragments ← scan inner 1000000 .document []
        modify ({ · with inDocument := false })
        scanDocument inner document n (body ++ fragments)

end LineShell.Script
