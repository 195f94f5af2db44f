import LineShell.Host.Script.Condition
import LineShell.Host.Utility.Words

/-! `test`: questions about files, and comparisons. -/
namespace LineShell.Utility

/-- A program that answers a question. The words that have not been looked at are its state. -/
abbrev Questioner := ReaderT Text (StateT (List Text) Tool)

namespace Questioner

def refuse {α : Type} (message : Text) : Questioner α :=
  (Tool.refuse 2 message : Tool α)

/-- Refuses a question that ends too early; the last of its words is known. -/
def beyond {α : Type} : Questioner α := do
  refuse ("missing argument after ".toList ++ quotePlainly (← read))

def skip (n : Nat) : Questioner Unit := modify (·.drop n)

/-- Passes over a word that another one has to follow. -/
def advance : Questioner Unit := do
  skip 1
  if (← get).isEmpty then beyond

def binaryOperators : List Text :=
  ["=", "==", "!=", "-eq", "-ne", "-ge", "-gt", "-le", "-lt", "-nt", "-ot", "-ef"].map
    String.toList

def integer (t : Text) : Questioner Int := do
  let isSpace (c : Char) : Bool := c == ' ' || ('\t' ≤ c && c ≤ '\r')
  let start := t.dropWhile isSpace
  match integer? (start.reverse.dropWhile isSpace).reverse with
  | some i => return i
  | none => refuse ("invalid integer ".toList ++ quotePlainly t)

/-- The file that a name leads to, and the time of its last change. -/
def modified? (v : View) (name : Text) : Option Nat := (v.node? name).map v.files.modified

/-- Whether a file is younger than another one, or there is no other one. -/
def isNewer (v : View) (a b : Text) : Bool :=
  match modified? v a, modified? v b with
  | some m, some n => decide (n < m)
  | some _, none => true
  | none, _ => false

/-- A comparison of two operands; `-l` in front of one stands for its length. -/
def compare (leftLength : Bool) : Questioner Bool := do
  if leftLength then skip 1
  let words ← get
  let left := words.headD []
  let operator := (words.drop 1).headD []
  let rightLength := 3 < words.length && words[2]? == some ['-', 'l']
  if rightLength then skip 1
  let right := ((← get).drop 2).headD []
  let value (length : Bool) (t : Text) : Questioner Int :=
    if length then return t.length else integer t
  let v ← (Tool.view : Tool View)
  let files (holds : Bool) : Questioner Bool := do
    skip 3
    if leftLength ∨ rightLength then refuse (operator ++ " does not accept -l".toList)
    return holds
  let numbers (holds : Int → Int → Bool) : Questioner Bool := do
    let x ← value leftLength left
    let y ← value rightLength right
    skip 3
    return holds x y
  match String.ofList operator with
  | "-eq" => numbers fun x y => x == y
  | "-ne" => numbers fun x y => x != y
  | "-lt" => numbers fun x y => decide (x < y)
  | "-le" => numbers fun x y => decide (x ≤ y)
  | "-gt" => numbers fun x y => decide (y < x)
  | "-ge" => numbers fun x y => decide (y ≤ x)
  | "-nt" => files (isNewer v left right)
  | "-ot" => files (isNewer v right left)
  | "-ef" => files (Script.Condition.isSameFile v left right)
  | _ =>
    let equal := ((← get).headD []) == right
    skip 3
    return if operator = ['!', '='] then !equal else equal

def ask : Questioner Bool := do
  let operator := (← get).headD []
  let letter := (operator.drop 1).headD '\x00'
  if !("ewxrNOGfdsScbpLhugktzn".toList.contains letter) then
    refuse (quotePlainly operator ++ ": unary operator expected".toList)
  advance
  let t := (← get).headD []
  skip 1
  match letter with
  | 'z' => return t.isEmpty
  | 'n' => return !t.isEmpty
  | 't' =>
    let n ← integer t
    let s ← (Tool.act .system : Tool System)
    return 0 ≤ n && s.isTerminal (← (Tool.process : Tool Process)) n.toNat
  | letter =>
    let s ← (Tool.act .system : Tool System)
    return Script.Condition.fileAnswer s (← (Tool.view : Tool View)) letter t

/-- Whether a word asks something about the next one. -/
def isQuestion (t : Text) : Bool := t.length == 2 && t.head? == some '-'

def word : Questioner Bool := do
  let t := (← get).headD []
  skip 1
  return !t.isEmpty

def pair : Questioner Bool := do
  let t := (← get).headD []
  if t = ['!'] then
    skip 1
    return !(← word)
  else if isQuestion t then ask
  else beyond

/-- Passes over the parenthesis that ends a part of a question. -/
def close : Questioner Unit := do
  match ← get with
  | [] => refuse "')' expected".toList
  | [')'] :: _ => skip 1
  | t :: _ => refuse ("')' expected, found ".toList ++ quotePlainly t)

/-- How many words there are up to the closing parenthesis, or, if that is too far away, in all. -/
def enclosed (words : List Text) : Nat :=
  let inner := (words.drop 1).takeWhile (· ≠ [')'])
  if inner.length < 3 then inner.length + 1 else words.length

mutual

/-- A question of so many words; `fuel` bounds how deep questions are nested. -/
def counted (fuel count : Nat) : Questioner Bool := do
  match fuel with
  | 0 => return false
  | fuel + 1 =>
    let words ← get
    let first := words.headD []
    match count with
    | 1 => word
    | 2 => pair
    | 3 => three fuel
    | 4 =>
      if first = ['!'] then
        advance
        return !(← three fuel)
      else if first = ['('] ∧ words[3]? = some [')'] then
        skip 1
        let b ← pair
        skip 1
        return b
      else either fuel
    | _ => either fuel

def three (fuel : Nat) : Questioner Bool := do
  match fuel with
  | 0 => return false
  | fuel + 1 =>
    let words ← get
    let first := words.headD []
    let middle := (words.drop 1).headD []
    if binaryOperators.contains middle then compare false
    else if first = ['!'] then
      advance
      return !(← pair)
    else if first = ['('] ∧ words[2]? = some [')'] then
      skip 1
      let b ← word
      skip 1
      return b
    else if middle = ['-', 'a'] ∨ middle = ['-', 'o'] then either fuel
    else refuse (quotePlainly middle ++ ": binary operator expected".toList)

def term (fuel : Nat) : Questioner Bool := do
  match fuel with
  | 0 => return false
  | fuel + 1 =>
    let words ← get
    let first := words.headD []
    if words = [] then beyond
    else if first = ['!'] then
      advance
      return !(← term fuel)
    else if first = ['('] then
      advance
      let b ← counted fuel (enclosed (← get))
      close
      return b
    else if first = ['-', 'l'] ∧ 4 ≤ words.length ∧
        binaryOperators.contains ((words.drop 2).headD []) then
      compare true
    else if 3 ≤ words.length ∧ binaryOperators.contains ((words.drop 1).headD []) then
      compare false
    else if isQuestion first then ask
    else word

def both (fuel : Nat) : Questioner Bool := do
  match fuel with
  | 0 => return false
  | fuel + 1 =>
    let b ← term fuel
    if (← get).head? = some ['-', 'a'] then
      skip 1
      let c ← both fuel
      return b && c
    else return b

def either (fuel : Nat) : Questioner Bool := do
  match fuel with
  | 0 => return false
  | fuel + 1 =>
    let b ← both fuel
    if (← get).head? = some ['-', 'o'] then
      skip 1
      let c ← either fuel
      return b || c
    else return b

end

def all : Questioner Bool := do
  let count := (← get).length
  let b ← counted (10 * count + 10) count
  match ← get with
  | [] => return b
  | t :: _ => refuse ("extra argument ".toList ++ quotePlainly t)

end Questioner

def answerQuestion (words : List Text) : Tool Nat := do
  if words = [] then return 1
  let (b, _) ← StateT.run (ReaderT.run Questioner.all (words.getLastD [])) words
  return if b then 0 else 1

def test : Tool Nat := do answerQuestion (← Tool.arguments)

/-- As `test`; the last argument closes the bracket. -/
def bracket : Tool Nat := do
  let words ← Tool.arguments
  if words.getLast? ≠ some [']'] then Tool.refuse 2 "missing ']'".toList
  answerQuestion words.dropLast

end LineShell.Utility
