import LineShell.Host.Regex.Parser
import LineShell.Host.Utility.Words

/-! `expr`: the value of an expression whose parts are words. -/
namespace LineShell.Utility

/-- The words of an expression that are left, and the one in front of them. -/
structure Formula where
  before : Text := []
  rest : List Text

abbrev Evaluator := StateT Formula Tool

namespace Evaluator

def refuse {α : Type} (message : Text) : Evaluator α := (Tool.refuse 2 message : Tool α)

def mistake {α : Type} (what : String) (word : Text) : Evaluator α :=
  refuse (("syntax error: " ++ what ++ " ").toList ++ quotePlainly word)

def take : Evaluator Text := do
  match ← get with
  | { before, rest := [] } => mistake "missing argument after" before
  | { rest := t :: rest, .. } =>
    set { before := t, rest : Formula }
    return t

def accept (words : List String) : Evaluator (Option String) := do
  match (← get).rest with
  | [] => return none
  | t :: _ =>
    match words.find? fun w => w.toList == t with
    | some w =>
      let _ ← take
      return some w
    | none => return none

/-- The number that a text writes: digits, perhaps behind a minus sign. -/
def integer? (t : Text) : Option Int :=
  match t with
  | '-' :: digits => (Text.natural? digits).map fun n => -(n : Int)
  | digits => (Text.natural? digits).map fun n => (n : Int)

/-- Whether a value is nothing, or a number with no digits but zeros. -/
def isNull (t : Text) : Bool := t.isEmpty || integer? t == some 0

def number (t : Text) : Evaluator Int :=
  match integer? t with
  | some i => return i
  | none => refuse "non-integer argument".toList

/-- How expressions are written that values are compared with. -/
def dialect : Regex.Dialect := { emptyRanges := true }

/-- The part of a text that matches the first group of an expression, or, if there is no group, how
much of the text matches; the match begins where the text does. -/
def matched (t pattern : Text) : Evaluator Text :=
  match dialect.read pattern with
  | .error fault => refuse fault.message
  | .ok (r, groups) =>
    match r.matchAt? { rest := t }, groups with
    | some m, 0 => return Text.decimal m.text.length
    | none, 0 => return ['0']
    | some m, _ => return m.group 1
    | none, _ => return []

def size? (t : Text) : Option Nat := (integer? t).map Int.toNat

def holds (operator : String) (a b : Text) : Bool :=
  let order := match integer? a, integer? b with
    | some i, some j => compare i j
    | _, _ => compareOfLessAndEq a b
  match operator with
  | "<" => order.isLT
  | "<=" => order.isLE
  | "=" | "==" => order.isEq
  | "!=" => order.isNe
  | ">=" => order.isGE
  | _ => order.isGT

def calculate (operator : String) (i j : Int) : Evaluator Int :=
  match operator with
  | "+" => return i + j
  | "-" => return i - j
  | "*" => return i * j
  | operator =>
    if j = 0 then refuse "division by zero".toList
    else return if operator = "/" then i.tdiv j else i.tmod j

/-- Goes on as long as one of some operators follows. An operand may hang on the value before it. -/
def chain (operators : List String) (operand : Text → Evaluator Text)
    (combine : String → Text → Text → Evaluator Text) : Nat → Text → Evaluator Text
  | 0, t => return t
  | fuel + 1, t => do
    match ← accept operators with
    | none => return t
    | some operator =>
      let u ← operand t
      chain operators operand combine fuel (← combine operator t u)

def level (operators : List String) (operand : Bool → Evaluator Text) (live : Bool)
    (combine : String → Text → Text → Evaluator Text) : Evaluator Text := do
  let t ← operand live
  chain operators (fun _ => operand live) combine ((← get).rest.length + 1) t

def primary (inner : Bool → Evaluator Text) (live : Bool) : Evaluator Text := do
  match ← take with
  | ['('] =>
    let t ← inner live
    match (← get).rest with
    | [] => mistake "expecting ')' after" (← get).before
    | [')'] :: _ =>
      let _ ← take
      return t
    | word :: _ => mistake "expecting ')' instead of" word
  | [')'] => refuse "syntax error: unexpected ')'".toList
  | t => return t

/-- A function of what follows, or something simpler; `depth` bounds how deep functions are
nested. -/
def function (inner : Bool → Evaluator Text) (live : Bool) (depth : Nat) : Evaluator Text := do
  match depth with
  | 0 => return []
  | depth + 1 =>
    match ← accept ["+", "length", "match", "index", "substr"] with
    | none => primary inner live
    | some "+" => take
    | some "length" => return Text.decimal (← function inner live depth).length
    | some "match" =>
      let t ← function inner live depth
      let pattern ← function inner live depth
      if live then matched t pattern else return t
    | some "index" =>
      let t ← function inner live depth
      let chars ← function inner live depth
      return Text.decimal (((t.findIdx? chars.contains).map (· + 1)).getD 0)
    | some _ =>
      let t ← function inner live depth
      let start ← function inner live depth
      let length ← function inner live depth
      match size? start, size? length with
      | some (n + 1), some length => return (t.drop n).take length
      | _, _ => return []

def comparison (inner : Bool → Evaluator Text) (live : Bool) : Evaluator Text :=
  let operand (live : Bool) : Evaluator Text := do
    function inner live ((← get).rest.length + 1)
  level [":"] operand live fun _ t pattern => if live then matched t pattern else return t

def arithmetic (live : Bool) (operator : String) (a b : Text) : Evaluator Text := do
  if !live then return a
  let i ← number a
  let j ← number b
  return Text.signed (← calculate operator i j)

def product (inner : Bool → Evaluator Text) (live : Bool) : Evaluator Text :=
  level ["*", "/", "%"] (comparison inner) live (arithmetic live)

def sum (inner : Bool → Evaluator Text) (live : Bool) : Evaluator Text :=
  level ["+", "-"] (product inner) live (arithmetic live)

def relation (inner : Bool → Evaluator Text) (live : Bool) : Evaluator Text :=
  level ["<", "<=", "=", "==", "!=", ">=", ">"] (sum inner) live fun operator a b =>
    return if holds operator a b then ['1'] else ['0']

/-- Values that all have to be something; what comes behind nothing does not count. -/
def both (inner : Bool → Evaluator Text) (live : Bool) : Evaluator Text := do
  let t ← relation inner live
  let next (t : Text) : Evaluator Text := relation inner (live && !isNull t)
  let combine (_ : String) (t u : Text) : Evaluator Text :=
    return if isNull t || isNull u then ['0'] else t
  chain ["&"] next combine ((← get).rest.length + 1) t

/-- Values of which the first that is something counts. -/
def either (inner : Bool → Evaluator Text) (live : Bool) : Evaluator Text := do
  let t ← both inner live
  let next (t : Text) : Evaluator Text := both inner (live && isNull t)
  let combine (_ : String) (t u : Text) : Evaluator Text :=
    return if !isNull t then t else if isNull u then ['0'] else u
  chain ["|"] next combine ((← get).rest.length + 1) t

/-- An expression; the number bounds how deep it is nested. Its value may not count. -/
def expression : Nat → Bool → Evaluator Text
  | 0, _ => return []
  | depth + 1, live => either (expression depth) live

end Evaluator

/-- Prints the value of the expression that its arguments write. -/
def evaluate : Tool Nat := do
  let words := match ← Tool.arguments with
    | ['-', '-'] :: rest => rest
    | words => words
  if words = [] then Tool.misuse 2 "missing operand".toList
  let (t, left) ← StateT.run (Evaluator.expression (words.length + 1) true) { rest := words }
  match left.rest with
  | word :: _ => Tool.refuse 2 ("syntax error: unexpected argument ".toList ++ quotePlainly word)
  | [] =>
    Tool.printLine t
    return if Evaluator.isNull t then 1 else 0

end LineShell.Utility
