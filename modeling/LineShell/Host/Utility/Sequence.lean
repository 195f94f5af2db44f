import LineShell.Host.Utility.Words

/-! `seq`: numbers in even steps. -/
namespace LineShell.Utility

structure Endpoint where
  quantity : Quantity
  /-- How many signs it takes up. -/
  width : Int := 0
  /-- How many digits it has behind the point, if that can be said. -/
  precision : Option Nat := none

namespace Endpoint

def fromLetter? (lower : Char) (t : Text) : Option Text :=
  match t.dropWhile (· != lower) with
  | [] =>
    match t.dropWhile (· != lower.toUpper) with
    | [] => none
    | rest => some rest
  | rest => some rest

/-- How wide a text is, and how many digits it has behind the point, without an exponent. -/
def plainSize (t : Text) : Int × Option Nat :=
  match Text.cut? '.' t with
  | none => (t.length, if t.contains 'p' then none else some 0)
  | some (front, behind) =>
    let fraction := behind.takeWhile fun c => c != 'e' && c != 'E'
    let change : Int :=
      if fraction = [] then -1 else if front.getLast?.any Char.isDigit then 0 else 1
    (t.length + change, some fraction.length)

def size (t : Text) : Int × Option Nat :=
  let (width, precision) := plainSize t
  match fromLetter? 'e' t with
  | none => (width, precision)
  | some tail =>
    let e := ((Script.Arithmetic.readSigned (tail.drop 1)).map (·.1)).getD 0
    let hasPoint := t.contains '.'
    let fraction := if hasPoint then precision.getD 0 else 0
    let width := width - tail.length
    if e < 0 then
      let opens := !hasPoint || fraction == 0
      (width + (if opens then 1 else 0) + e.natAbs, precision.map (· + e.natAbs))
    else
      let e := e.toNat
      let precision := precision.map (· - e)
      let closes := hasPoint && precision == some 0 && fraction != 0
      (width - (if closes then 1 else 0) + (e - fraction : Nat), precision)

def read (t : Text) : Tool Endpoint := do
  let invalid : Tool Endpoint :=
    Tool.misuse 1 ("invalid floating point argument: ".toList ++ quotePlainly t)
  match Quantity.read .extended t with
  | none => invalid
  | some r =>
    if r.rest ≠ [] ∨ r.isOutOfRange then return ← invalid
    match r.quantity with
    | .undefined _ =>
      Tool.misuse 1 ("invalid 'not-a-number' argument: ".toList ++ quotePlainly t)
    | .infinite _ => return { quantity := r.quantity }
    | .finite .. =>
      let t := t.dropWhile fun c => isWhite c || c == '+'
      if t.contains 'x' ∨ t.contains 'X' then
        let plain := !t.contains '.' && !t.contains 'p'
        return { quantity := r.quantity, precision := if plain then some 0 else none }
      let (width, precision) := size t
      return { quantity := r.quantity, width, precision }

end Endpoint

/-- How the numbers are printed: what stands around them, and the directive for them. -/
structure NumberLayout where
  before : Text := []
  directive : Directive := {}
  letter : Char := 'g'
  behind : Text := []

namespace NumberLayout

def bare (l : NumberLayout) (q : Quantity) : Text := l.directive.quantity .extended l.letter q

def text (l : NumberLayout) (q : Quantity) : Text := l.before ++ l.bare q ++ l.behind

/-- The text in front of a directive, and the text behind its percent sign if there is one. -/
def front : Text → Text × Option Text
  | '%' :: '%' :: rest =>
    let (t, tail) := front rest
    ('%' :: t, tail)
  | '%' :: rest => ([], some rest)
  | c :: rest =>
    let (t, tail) := front rest
    (c :: t, tail)
  | [] => ([], none)

def read (format : Text) : Tool NumberLayout := do
  let refuse (what : String) : Tool NumberLayout :=
    Tool.refuse 1 ("format ".toList ++ quotePlainly format ++ what.toList)
  match front format with
  | (_, none) => refuse " has no % directive"
  | (before, some t) =>
    let flags := t.takeWhile "-+#0 '".toList.contains
    let t := t.drop flags.length
    let width := t.takeWhile Char.isDigit
    let t := t.drop width.length
    let (precision, t) : Option Nat × Text := match t with
      | '.' :: t =>
        let digits := t.takeWhile Char.isDigit
        (some ((Text.natural? digits).getD 0), t.drop digits.length)
      | t => (none, t)
    match if t.head? = some 'L' then t.drop 1 else t with
    | [] => refuse " ends in %"
    | letter :: rest =>
      if !("efgaEFGA".toList.contains letter) then
        return ← refuse (" has unknown %" ++ letter.toString ++ " directive")
      match front rest with
      | (_, some _) => refuse " has too many % directives"
      | (behind, none) =>
        return { before, letter, behind
                 directive := { flags, width := (Text.natural? width).getD 0, precision } }

/-- The layout that suits some numbers; they may all have the same width. -/
def ofEndpoints (equalWidth : Bool) (first step last : Endpoint) : NumberLayout :=
  match first.precision, step.precision, last.precision with
  | some p, some q, some r =>
    let places := max p q
    let sign (old : Nat) : Int := if old = 0 ∧ 0 < places then 1 else 0
    let firstWidth := first.width + (places - p : Nat) + sign p
    let lastWidth := last.width + (places : Int) - r + sign r -
      (if 0 < r ∧ places = 0 then 1 else 0)
    let width := (max firstWidth lastWidth).toNat
    { letter := 'f'
      directive := { flags := if equalWidth then ['0'] else [],
                     width := if equalWidth then width else 0, precision := some places } }
  | _, _, _ => {}

end NumberLayout

def sequenceLimit : Nat := 1000000000000

/-- Prints whole numbers from a first one up or down to a last one; without a last one they go
on. -/
def printWhole (separator : Text) (layout : Int → Text) (step : Int) (last : Option Int) :
    Nat → Bool → Int → Tool Unit
  | 0, _, _ => return ()
  | fuel + 1, isFirst, i => do
    if last.any fun last => if step < 0 then i < last else last < i then
      if !isFirst then Tool.print ['\n']
    else
      Tool.print (if isFirst then layout i else separator ++ layout i)
      printWhole separator layout step last fuel false (i + step)

/-- A first number and some steps from it. Each result is rounded. -/
def stepped (first step : Quantity) (n : Nat) : Quantity :=
  match first.value?, step.value? with
  | some x, some y =>
    match (Quantity.ofRat .extended (n * y)).value? with
    | some z => .ofRat .extended (x + z)
    | none => .infinite step.isNegative
  | some _, none => step
  | none, _ => first

/-- Prints numbers from a first one up or down to a last one. A number just beyond the last one is
printed too if it is written like it and unlike the number before. -/
def printSteps (separator : Text) (l : NumberLayout) (first step last : Quantity) :
    Nat → Nat → Tool Unit
  | 0, _ => return ()
  | fuel + 1, n => do
    let x := stepped first step n
    let next := stepped first step (n + 1)
    Tool.print (l.text x)
    let isOut := if step.isNegative then next.isLess last else last.isLess next
    if isOut then
      let shown := l.bare next
      let isLast := ((Quantity.read .extended shown).any fun r => r.quantity == last) &&
        shown != l.bare x
      Tool.print (if isLast then separator ++ l.text next ++ ['\n'] else ['\n'])
    else
      Tool.print separator
      printSteps separator l first step last fuel (n + 1)

/-- Whether an argument is a negative number, and so no option. -/
def isNegativeNumber : Text → Bool
  | '-' :: c :: _ => c.isDigit || c == '.'
  | _ => false

def sequence : Tool Nat := do
  let known : Known :=
    { letters := "w", valued := "fs", mixed := false
      long := [("equal-width", 'w'), ("format", 'f'), ("separator", 's')] }
  let arguments ← Tool.arguments
  let options := arguments.takeWhile (!isNegativeNumber ·)
  let g ← known.read Known.letterLimit options {}
  let operands := g.operands ++ arguments.drop options.length
  match operands with
  | [] => Tool.misuse 1 "missing operand".toList
  | _ =>
    if 3 < operands.length then
      Tool.misuse 1 ("extra operand ".toList ++ quotePlainly ((operands.drop 3).headD []))
    let format ← (g.value? 'f').mapM NumberLayout.read
    if format.isSome ∧ g.has 'w' then
      Tool.misuse 1
        "format string may not be specified when printing equal width strings".toList
    let separator := (g.value? 's').getD ['\n']
    let whole := operands.filterMap Text.natural?
    if format.isNone ∧ !g.has 'w' ∧ whole.length = operands.length ∧ whole[1]? ≠ some 0 then
      let run (first step last : Nat) : Tool Nat := do
        printWhole separator Text.signed step (some last) sequenceLimit true first
        return 0
      match whole with
      | [last] => return ← run 1 1 last
      | [first, last] => return ← run first 1 last
      | [first, step, last] => return ← run first step last
      | _ => return 0
    let one : Endpoint := { quantity := .ofInt .extended 1, width := 1, precision := some 0 }
    let (first, step, last) ← match operands with
      | [last] => do pure (one, one, ← Endpoint.read last)
      | [first, last] => do
        let first ← Endpoint.read first
        pure (first, one, ← Endpoint.read last)
      | _ => do
        let first ← Endpoint.read (operands.headD [])
        let increment := operands.getD 1 []
        let step ← Endpoint.read increment
        if step.quantity.value? = some 0 then
          Tool.misuse 1 ("invalid Zero increment value: ".toList ++ quotePlainly increment)
        pure (first, step, ← Endpoint.read (operands.getD 2 []))
    let l := format.getD (.ofEndpoints (g.has 'w') first step last)
    let isOut := if step.quantity.isNegative then first.quantity.isLess last.quantity
      else last.quantity.isLess first.quantity
    if !isOut then
      printSteps separator l first.quantity step.quantity last.quantity sequenceLimit 0
    return 0

end LineShell.Utility
