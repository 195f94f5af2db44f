import LineShell.Host.Number.Quantity
import LineShell.Host.Regex.Parser

/-! How texts are searched, split and changed: by expressions, and by single characters. -/
namespace LineShell.Records

/-! ### The text of an expression -/

/-- What is wrong with the text of an expression. -/
inductive ExpressionFault
  | missingParenthesis
  | badSet
  | missingOperand
  | repeatedStart
  deriving DecidableEq

def ExpressionFault.message : ExpressionFault → Text
  | .missingParenthesis => "missing ')'".toList
  | .badSet => "bad class -- [], [^] or [".toList
  | .missingOperand => "missing operand".toList
  | .repeatedStart => "syntax error ^* or ^+".toList

/-- The members of a set behind its opening bracket, and what follows the closing one. -/
def cutSet (t : Text) : Option (Text × Text) :=
  let (sign, t) := if t.head? = some '^' then (['^'], t.drop 1) else ([], t)
  let rec go : Nat → Text → Text → Option (Text × Text)
    | 0, _, _ => none
    | _ + 1, _, [] => none
    | fuel + 1, found, '[' :: ':' :: rest =>
      let name := rest.takeWhile Char.isAlpha
      if ":]".toList.isPrefixOf (rest.drop name.length) then
        go fuel ("]:".toList ++ name.reverse ++ ":[".toList ++ found) (rest.drop (name.length + 2))
      else go fuel ('[' :: found) (':' :: rest)
    | fuel + 1, found, '\\' :: c :: rest => go fuel (c :: '\\' :: found) rest
    | fuel + 1, found, c :: rest =>
      if c = ']' ∧ found ≠ [] then some (sign ++ found.reverse, rest)
      else go fuel (c :: found) rest
  go (t.length + 1) [] t

def hexValue? (c : Char) : Option Nat :=
  let n := Quantity.digitValue c
  if n < 16 then some n else none

/-- The character that a backslash and what follows it write, and what is behind that. -/
def readEscape (t : Text) : Char × Text :=
  match t with
  | [] => ('\\', [])
  | c :: rest =>
    if '0' ≤ c ∧ c ≤ '7' then
      let digits := (t.take 3).takeWhile fun c => '0' ≤ c && c ≤ '7'
      (Char.ofNat (Quantity.digitsValue 8 digits % 256), t.drop digits.length)
    else if c = 'x' ∧ rest.head?.any (hexValue? · |>.isSome) then
      let digits := (rest.take 2).takeWhile (hexValue? · |>.isSome)
      (Char.ofNat (Quantity.digitsValue 16 digits), rest.drop digits.length)
    else if c = 'b' then ('\x08', rest)
    else ((Regex.Dialect.letterValue? c).getD c, rest)

/-- A character as every expression knows it: behind a backslash if it could mean something. -/
def plain (c : Char) : Text := if c.isAlphanum then [c] else ['\\', c]

/-- The members of a set. A range that ends before it begins is none, and each of its characters is
a member. -/
def members : Nat → Text → Except ExpressionFault (Char → Bool)
  | 0, _ => .ok fun _ => false
  | _ + 1, [] => .ok fun _ => false
  | fuel + 1, t => do
    let one (t : Text) : Char × Text := match t with
      | '\\' :: rest => readEscape rest
      | c :: rest => (c, rest)
      | [] => ('\x00', [])
    match t with
    | '[' :: ':' :: rest =>
      let name := rest.takeWhile Char.isAlpha
      if ":]".toList.isPrefixOf (rest.drop name.length) then
        if !Script.Pattern.classNames.contains name then throw .badSet
        let others ← members fuel (rest.drop (name.length + 2))
        return fun c => Script.Pattern.classOf name c || others c
      else
        let others ← members fuel (':' :: rest)
        return fun c => c == '[' || others c
    | t =>
      let (low, rest) := one t
      match rest with
      | '-' :: next :: more =>
        let (high, behind) := one (next :: more)
        if low ≤ high then
          let others ← members fuel behind
          return fun c => (low ≤ c && c ≤ high) || others c
        else
          let others ← members fuel behind
          return fun c => c == low || c == '-' || c == high || others c
      | rest =>
        let others ← members fuel rest
        return fun c => c == low || others c

/-- A set as every expression knows it: its members one by one. -/
def plainSet (t : Text) : Except ExpressionFault Text := do
  let (isNegated, t) := if t.head? = some '^' then (true, t.drop 1) else (false, t)
  let accepts ← members (t.length + 1) t
  let all := (List.range 256).map Char.ofNat
  let chosen := all.filter fun c => accepts c != isNegated
  if chosen = [] then return '[' :: '^' :: all.flatMap plain ++ [']']
  else return '[' :: chosen.flatMap plain ++ [']']

/-- Writes escapes and sets as every expression knows them. -/
def plainText : Nat → Text → Except ExpressionFault Text
  | 0, t => .ok t
  | _ + 1, [] => .ok []
  | fuel + 1, '\\' :: rest => do
    let (c, rest) := readEscape rest
    return plain c ++ (← plainText fuel rest)
  | fuel + 1, '[' :: rest => do
    match cutSet rest with
    | some (set, rest) => return (← plainSet set) ++ (← plainText fuel rest)
    | none => throw .badSet
  | fuel + 1, c :: rest => do return c :: (← plainText fuel rest)

/-- What the characters in front lead to expect. -/
inductive Expectation
  | operand
  | operator
  /-- A start of the text, which is not to be repeated. -/
  | noRepetition

/-- Looks for faults; `depth` is the number of open parentheses. -/
def faultIn : Nat → Expectation → Nat → Text → Option ExpressionFault
  | 0, _, _, _ => none
  | _ + 1, expected, depth, [] =>
    if expected matches .operand then some .missingOperand
    else if 0 < depth then some .missingParenthesis
    else none
  | fuel + 1, expected, depth, c :: rest =>
    match c with
    | '\\' => faultIn fuel .operator depth (rest.drop 1)
    | '[' =>
      match cutSet rest with
      | some (_, rest) => faultIn fuel .operator depth rest
      | none => some .badSet
    | '(' =>
      if rest = [] then some .missingParenthesis else faultIn fuel .operand (depth + 1) rest
    | '|' =>
      if expected matches .operand then some .missingOperand else faultIn fuel .operand depth rest
    | ')' =>
      if depth = 0 then faultIn fuel .operator depth rest
      else if expected matches .operand then some .missingOperand
      else faultIn fuel .operator (depth - 1) rest
    | '^' => faultIn fuel .noRepetition depth rest
    | c =>
      if c = '*' ∨ c = '+' ∨ c = '?' then
        match expected with
        | .operand => some .missingOperand
        | .noRepetition => if c = '?' then faultIn fuel .operator depth rest else some .repeatedStart
        | .operator => faultIn fuel .operator depth rest
      else faultIn fuel .operator depth rest

def dialect : Regex.Dialect :=
  { extended := true, letters := true, quotedSets := true, emptyRanges := true, words := false
    counted := false }

def readExpression (t : Text) : Except ExpressionFault Regex :=
  if t = [] then .ok (.sequence [])
  else
    match faultIn (t.length + 1) .operand 0 t with
    | some fault => .error fault
    | none => do
      match dialect.read (← plainText (t.length + 1) t) with
      | .ok (r, _) => return r
      | .error _ => throw .badSet

/-! ### Parts of a text -/

/-- What stands between the parts of a text. -/
inductive Separator
  /-- Space, which does not count at the ends either. -/
  | blanks
  /-- Nothing: every character is a part. -/
  | nothing
  | mark (c : Char)
  | pattern (r : Regex)

def Separator.ofText (t : Text) : Except ExpressionFault Separator :=
  match t with
  | [] => .ok .nothing
  | [' '] => .ok .blanks
  | [c] => .ok (.mark c)
  | t => (readExpression t).map .pattern

/-- The first match at or behind a place that is not empty. -/
def findSome (r : Regex) (index : Nat) (before : Option Char) : Text → Option Regex.Match
  | [] => none
  | c :: rest =>
    match r.matchAt? { index, before, rest := c :: rest } with
    | some m => if m.text = [] then findSome r (index + 1) (some c) rest else some m
    | none => findSome r (index + 1) (some c) rest

def splitAtMatches (r : Regex) : Nat → Regex.Place → List Text
  | 0, p => [p.rest]
  | fuel + 1, p =>
    match findSome r p.index p.before p.rest with
    | none => [p.rest]
    | some m => p.upTo m.start :: splitAtMatches r fuel m.stop

def Separator.split (s : Separator) (t : Text) : List Text :=
  if t = [] then []
  else
    match s with
    | .blanks => (splitWhere (fun c => c == ' ' || c == '\t' || c == '\n') t).filter (· != [])
    | .nothing => t.map ([·])
    | .mark c => splitWhere (· == c) t
    | .pattern r => splitAtMatches r t.length { rest := t }

/-! ### Changing what matches -/

/-- A piece of what is put in the place of a match. -/
inductive Piece
  | text (t : Text)
  | found

/-- What is put in the place of a match: `&` stands for that, unless there is a backslash in
front. -/
def readReplacement : Nat → Text → List Piece
  | 0, _ => []
  | _ + 1, [] => []
  | fuel + 1, '&' :: rest => .found :: readReplacement fuel rest
  | fuel + 1, '\\' :: rest =>
    let count := (rest.takeWhile (· == '\\')).length + 1
    let rest := rest.dropWhile (· == '\\')
    let slashes (n : Nat) : Text := List.replicate n '\\'
    match rest with
    | '&' :: more =>
      if count % 2 = 0 then .text (slashes (count / 2)) :: .found :: readReplacement fuel more
      else .text (slashes (count / 2) ++ ['&']) :: readReplacement fuel more
    | rest => .text (slashes count) :: readReplacement fuel rest
  | fuel + 1, c :: rest => .text [c] :: readReplacement fuel rest

def replaced (pieces : List Piece) (found : Text) : Text :=
  pieces.flatMap fun
    | .text t => t
    | .found => found

/-- Replaces every match, and says how many there are. An empty one does not count right behind
another match. -/
def replaceAll (r : Regex) (pieces : List Piece) : Nat → Regex.Place → Bool → Text × Nat
  | 0, p, _ => (p.rest, 0)
  | fuel + 1, p, isBehindMatch =>
    match r.find? p with
    | none => (p.rest, 0)
    | some m =>
      let front := p.upTo m.start
      if m.text = [] then
        let isNew := !(isBehindMatch && front.isEmpty)
        let here := if isNew then replaced pieces [] else []
        match m.stop.rest with
        | [] => (front ++ here, isNew.toNat)
        | c :: _ =>
          let (t, n) := replaceAll r pieces fuel (m.stop.skip 1) false
          (front ++ here ++ c :: t, n + isNew.toNat)
      else
        let (t, n) := replaceAll r pieces fuel m.stop true
        (front ++ replaced pieces m.text ++ t, n + 1)

/-- Replaces the first match, or every one, and says how many there are. -/
def substitute (everywhere : Bool) (r : Regex) (replacement t : Text) : Text × Nat :=
  let pieces := readReplacement (replacement.length + 1) replacement
  if everywhere then replaceAll r pieces (t.length + 2) { rest := t } false
  else
    match r.find? { rest := t } with
    | none => (t, 0)
    | some m => (t.take m.start.index ++ replaced pieces m.text ++ m.stop.rest, 1)

end LineShell.Records
