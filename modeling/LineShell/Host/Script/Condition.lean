import LineShell.Host.Script.Expansion

/-! The conditions of `test`: comparisons, questions about files, and what joins them. -/
namespace LineShell.Script.Condition

/-- What a word is where a condition may begin. -/
inductive Part
  | nothing
  | operand
  | unary
  | binary
  | not
  | and
  | or
  | opening
  | closing
  deriving DecidableEq

def unaryOperators : List Text :=
  ["-r", "-w", "-x", "-e", "-f", "-d", "-c", "-b", "-p", "-u", "-g", "-k", "-s", "-t", "-z", "-n",
    "-h", "-O", "-G", "-L", "-S"].map String.toList

def binaryOperators : List Text :=
  ["=", "!=", "<", ">", "-eq", "-ne", "-ge", "-gt", "-le", "-lt", "-nt", "-ot", "-ef"].map
    String.toList

/-- Whether an operator in front of other words can only be an operand. -/
def isOperand : List Text → Bool
  | [] => true
  | [_] => false
  | operator :: t :: _ => binaryOperators.contains operator && t != [')']

def part : List Text → Part
  | [] => .nothing
  | t :: rest =>
    if unaryOperators.contains t then if isOperand rest then .operand else .unary
    else if binaryOperators.contains t then .binary
    else if t = ['!'] then .not
    else if t = ['-', 'a'] then .and
    else if t = ['-', 'o'] then .or
    else if t = ['('] then if rest = [] then .operand else .opening
    else if t = [')'] then .closing
    else .operand

/-- A decimal number with white space around it, if it fits. -/
def integer? (t : Text) : Option Int :=
  let isSpace (c : Char) : Bool := c == ' ' || ('\t' ≤ c && c ≤ '\r')
  let t := (t.dropWhile isSpace).reverse.dropWhile isSpace |>.reverse
  let (negative, digits) := match t with
    | '-' :: rest => (true, rest)
    | '+' :: rest => (false, rest)
    | _ => (false, t)
  match Text.natural? digits with
  | none => none
  | some n =>
    let i : Int := if negative then -(n : Int) else n
    if -(Int.pow 2 63) ≤ i ∧ i < Int.pow 2 63 then some i else none

def number (t : Text) : Step Int := do
  match integer? t with
  | some i => return i
  | none => Step.fail ("Illegal number: ".toList ++ t)

/-- What a question about a file is answered with; `s` tells what is behind a link to an open
file. -/
def fileAnswer (s : System) (v : View) (letter : Char) (name : Text) : Bool :=
  let node := (v.node? name).map s.behind
  let allows (bit : Nat) : Bool := node.any fun node => v.files.mode node &&& bit != 0
  match letter with
  | 'r' => node.any v.files.mayRead
  | 'w' => node.any v.files.mayWrite
  | 'x' => node.any v.files.mayExecute
  | 'e' | 'O' | 'G' => node.isSome
  | 'f' => node.any Node.isFile
  | 'd' => node.any Node.isDirectory
  | 'c' => node.any (· matches .device _)
  | 'p' => node.any (· matches .pipe ..)
  | 's' => node.any fun node => v.files.size node != 0
  | 'u' => allows 0o4000
  | 'g' => allows 0o2000
  | 'k' => allows 0o1000
  | 'h' | 'L' =>
    match v.entry name with
    | .ok (.found _ node) => node.isLink
    | _ => false
  | _ => false

def isSameFile (v : View) (a b : Text) : Bool :=
  match v.find a, v.find b with
  | .ok (here, x), .ok (there, y) =>
    here == there || (x.id?.isSome && x.id? == y.id? && x.isFile)
  | _, _ => false

/-- What a question about one word is answered with. -/
def answer (operator t : Text) : Step Bool := do
  match operator with
  | ['-', 'z'] => return t.isEmpty
  | ['-', 'n'] => return !t.isEmpty
  | ['-', 't'] =>
    let n ← number t
    return 0 ≤ n && (← Step.perform .system).isTerminal (← Step.self) n.toNat
  | ['-', letter] => return fileAnswer (← Step.perform .system) (← Step.view) letter t
  | _ => return false

def compare (operator a b : Text) : Step Bool := do
  let v ← Step.view
  let newer (a b : Text) : Bool :=
    match v.node? a, v.node? b with
    | some x, some y => decide (v.files.modified y < v.files.modified x)
    | _, _ => false
  match operator with
  | ['='] => return a == b
  | ['!', '='] => return a != b
  | ['<'] => return decide (a < b)
  | ['>'] => return decide (b < a)
  | ['-', 'e', 'f'] => return isSameFile v a b
  | ['-', 'n', 't'] => return newer a b
  | ['-', 'o', 't'] => return newer b a
  | _ =>
    let x ← number a
    let y ← number b
    match operator with
    | ['-', 'e', 'q'] => return x == y
    | ['-', 'n', 'e'] => return x != y
    | ['-', 'g', 'e'] => return decide (y ≤ x)
    | ['-', 'g', 't'] => return decide (y < x)
    | ['-', 'l', 'e'] => return decide (x ≤ y)
    | _ => return decide (x < y)

def missing {α : Type} (operator : Text) : Step α :=
  Step.fail (operator ++ ": argument expected".toList)

mutual

/-- A condition without joining words, and the words behind it. The part that the first word is
taken for is given. -/
def simple : Nat → Part → List Text → Step (Bool × List Text)
  | 0, _, ts => return (false, ts)
  | n + 1, p, ts => do
    match p, ts with
    | .nothing, _ | _, [] => return (false, ts)
    | .opening, _ :: rest =>
      if part rest = .closing then return (false, rest.tail)
      else
        let (b, rest) ← either n (part rest) rest
        if part rest = .closing then return (b, rest.tail)
        else Step.fail "closing paren expected".toList
    | .unary, operator :: rest =>
      match rest with
      | [] => missing operator
      | t :: rest => return (← answer operator t, rest)
    | _, t :: rest =>
      match part rest, rest with
      | .binary, operator :: behind =>
        match behind with
        | [] => missing operator
        | u :: behind => return (← compare operator t u, behind)
      | _, _ => return (!t.isEmpty, rest)

def negated : Nat → Part → List Text → Step (Bool × List Text)
  | 0, _, ts => return (false, ts)
  | n + 1, p, ts => do
    if p = .not then
      let (b, rest) ← negated n (part ts.tail) ts.tail
      return (!b, rest)
    else simple n p ts

def both : Nat → Part → List Text → Step (Bool × List Text)
  | 0, _, ts => return (false, ts)
  | n + 1, p, ts => do
    let (a, rest) ← negated n p ts
    if part rest = .and then
      let (b, rest) ← both n (part rest.tail) rest.tail
      return (a && b, rest)
    else return (a, rest)

def either : Nat → Part → List Text → Step (Bool × List Text)
  | 0, _, ts => return (false, ts)
  | n + 1, p, ts => do
    let (a, rest) ← both n p ts
    if part rest = .or then
      let (b, rest) ← either n (part rest.tail) rest.tail
      return (a || b, rest)
    else return (a, rest)

end

/-- Decides words as a whole. Of three words with an operator in the middle the outer two are
operands, whatever they look like. -/
def holds : Nat → List Text → Step Bool
  | 0, _ => return false
  | n + 1, ts => do
    let whole (p : Part) (ts : List Text) : Step Bool := do
      let (b, rest) ← either (4 * ts.length + 8) p ts
      match rest with
      | [] => return b
      | _ =>
        let last := ts.getD (ts.length - rest.length - 1) []
        let front := if last = [] then [] else last ++ ": ".toList
        Step.fail (front ++ "unexpected operator".toList)
    match ts with
    | [] => return false
    | [_, operator, _] =>
      if binaryOperators.contains operator then whole .operand ts
      else if ts.head? = some ['('] ∧ ts.getLast? = some [')'] then
        whole (part (ts.drop 1).dropLast) (ts.drop 1).dropLast
      else if ts.head? = some ['!'] then return !(← holds n ts.tail)
      else whole (part ts) ts
    | [_, _, _, _] =>
      if ts.head? = some ['('] ∧ ts.getLast? = some [')'] then
        whole (part (ts.drop 1).dropLast) (ts.drop 1).dropLast
      else if ts.head? = some ['!'] then return !(← holds n ts.tail)
      else whole (part ts) ts
    | _ => whole (part ts) ts

def test (arguments : List Text) : Step Nat := do
  return if ← holds (arguments.length + 1) arguments then 0 else 1

/-- Carries out `[`, whose last argument closes the bracket. -/
def bracket (arguments : List Text) : Step Nat := do
  if arguments.getLast? = some [']'] then test arguments.dropLast
  else Step.fail "missing ]".toList

end LineShell.Script.Condition
