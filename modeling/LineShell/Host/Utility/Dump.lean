import LineShell.Host.Utility.Amount
import LineShell.Host.Utility.Concatenate
import LineShell.Host.Utility.Words

/-! `od`: the bytes of files as numbers and characters. -/
namespace LineShell.Dump

open Utility

/-! ### How bytes are shown -/

inductive Reading
  | signed
  /-- A number in the base that a letter stands for. -/
  | unsigned (letter : Char)
  | real
  | character
  /-- A character of seven bits, with a name if it cannot be printed. -/
  | named
  deriving DecidableEq

structure Style where
  reading : Reading
  /-- How many bytes make up a value. -/
  size : Nat := 1
  /-- The characters follow behind the line. -/
  trailed : Bool := false

/-- The number grids of values with a fraction, by size. -/
def gridOf (size : Nat) : Grid :=
  if size = 4 then ⟨24, -126, 127⟩ else if size = 8 then .double else .extended

/-- The names of characters that cannot be printed. -/
def characterNames : List String :=
  ["nul", "soh", "stx", "etx", "eot", "enq", "ack", "bel", "bs", "ht", "nl", "vt", "ff", "cr", "so", "si",
    "dle", "dc1", "dc2", "dc3", "dc4", "nak", "syn", "etb", "can", "em", "sub", "esc", "fs", "gs", "rs",
    "us", "sp"]

def escapes : List (Nat × Char) :=
  [(0, '0'), (7, 'a'), (8, 'b'), (12, 'f'), (10, 'n'), (13, 'r'), (9, 't'), (11, 'v')]

namespace Style

def width (s : Style) : Nat :=
  let pick (one two four eight : Nat) : Nat :=
    if s.size = 1 then one else if s.size = 2 then two else if s.size = 4 then four else eight
  match s.reading with
  | .signed => pick 4 6 11 20
  | .unsigned 'o' => pick 3 6 11 22
  | .unsigned 'x' => 2 * s.size
  | .unsigned _ => pick 3 5 10 20
  | .real => pick 0 0 15 (if s.size = 8 then 24 else 29)
  | .character | .named => 3

/-- The value that bits of a number with a fraction stand for: the width of its fraction, and
whether the first digit of it is written. -/
def realOf (size n : Nat) : Quantity :=
  let (fraction, exponentBits, isWritten) : Nat × Nat × Bool :=
    if size = 4 then (23, 8, false) else if size = 8 then (52, 11, false) else (64, 15, true)
  let isNegative := n / Nat.pow 2 (fraction + exponentBits) % 2 = 1
  let e := n / Nat.pow 2 fraction % Nat.pow 2 exponentBits
  let m := n % Nat.pow 2 fraction
  let bias : Int := Int.pow 2 (exponentBits - 1) - 1
  let places : Int := if isWritten then fraction - 1 else fraction
  if e = Nat.pow 2 exponentBits - 1 then
    if m % Nat.pow 2 (if isWritten then 63 else fraction) = 0 then .infinite isNegative
    else .undefined isNegative
  else if isWritten ∧ e ≠ 0 ∧ m < Nat.pow 2 63 then .undefined isNegative
  else
    let e' : Int := (if e = 0 then 1 else e) - bias - places
    let m := if e = 0 ∨ isWritten then m else m + Nat.pow 2 fraction
    .finite isNegative (m * power 2 e')

/-- The shortest digits from so many on that the number is read back from. -/
def shortest (g : Grid) (q : Quantity) : Nat → Nat → Text
  | 0, digits => ({ precision := some digits : Directive }).quantity g 'g' q
  | fuel + 1, digits =>
    let t := ({ precision := some digits : Directive }).quantity g 'g' q
    if (Quantity.read g t).any (·.quantity == q) then t else shortest g q fuel (digits + 1)

def realText (size n : Nat) : Text :=
  let g := gridOf size
  let q := realOf size n
  let least := if size = 4 then 6 else if size = 8 then 15 else 18
  let isSmall : Bool := match q with
    | .finite _ x => x < power 2 g.least
    | _ => false
  shortest g q 24 (if isSmall then 1 else least)

/-- The text of a value; the first byte counts least. -/
def text (s : Style) (bytes : List Nat) : Text :=
  let n : Nat := bytes.foldr (fun b n => b + 256 * n) 0
  let d : Directive := {}
  match s.reading with
  | .signed =>
    let limit : Nat := Nat.pow 2 (8 * s.size - 1)
    d.signed (if n < limit then (n : Int) else (n : Int) - (2 * limit : Nat))
  | .unsigned letter =>
    let precision := if letter = 'u' then none else some s.width
    { d with precision }.unsigned letter n
  | .real => realText s.size n
  | .character =>
    match escapes.lookup n with
    | some c => ['\\', c]
    | none => if isPrintable (Char.ofNat n) then [Char.ofNat n] else { d with precision := some 3 }.unsigned 'o' n
  | .named =>
    let n := n % 128
    if n = 127 then "del".toList
    else match characterNames[n]? with
      | some name => name.toList
      | none => [Char.ofNat n]

def right (width : Nat) (t : Text) : Text := ({ width : Directive }).pad t

/-- The values of a line next to each other; `blank` of them are missing, and `space` is what is to
be shared between them. -/
def row (s : Style) (space count blank : Nat) (isBig : Bool) : Nat → Nat → List Nat → Text
  | 0, _, _ => []
  | i + 1, left, bytes =>
    if i < blank then []
    else
      let next := space * i / count
      let value := bytes.take s.size
      right (left - next + s.width) (s.text (if isBig then value.reverse else value)) ++
        row s space count blank isBig i next (bytes.drop s.size)

end Style

/-! ### Lines -/

structure Frame where
  styles : List Style
  /-- How many bytes stand on a line. -/
  perLine : Nat
  /-- The base of addresses; without one there are none. -/
  base : Option Nat := some 8
  /-- Another address that is shown as well is so far away. -/
  second : Option Int := none
  /-- Lines that say the same are shown. -/
  all : Bool := false
  isBig : Bool := false

namespace Frame

def digits (l : Frame) (n : Nat) : Text :=
  let base := l.base.getD 8
  let ds := Nat.toDigits base n
  List.replicate ((if base = 16 then 6 else 7) - ds.length) '0' ++ ds

def address (l : Frame) (n : Nat) : Text :=
  let plain := if l.base.isSome then l.digits n else []
  match l.second with
  | none => plain
  | some distance =>
    let other := '(' :: l.digits (n + distance).toNat ++ [')']
    if plain = [] then other else plain ++ ' ' :: other

def lines (l : Frame) (offset : Nat) (bytes : List Nat) : Text :=
  let missing := l.perLine - bytes.length
  let filled := bytes ++ List.replicate missing 0
  let widest := (l.styles.map fun s => (s.width + 1) * (l.perLine / s.size)).foldl max 0
  let indent := match l.base with
    | none => if l.second.isSome then 7 else 0
    | some base => if base = 16 then 6 else 7
  let shown := l.styles.mapIdx fun i s =>
    let count := l.perLine / s.size
    let blank := missing / s.size
    let space := widest - s.width * count
    let front := if i = 0 then l.address offset else List.replicate indent ' '
    let trailer := if s.trailed then
        List.replicate (blank * s.width + space * blank / count) ' ' ++ "  >".toList ++
          bytes.map (fun b => if isPrintable (Char.ofNat b) then Char.ofNat b else '.') ++ ['<']
      else []
    (front ++ s.row space count blank l.isBig count space filled ++ trailer).line
  shown.flatten

end Frame

structure Progress where
  offset : Nat := 0
  /-- Bytes that do not yet fill a line. -/
  pending : Text := []
  /-- How many bytes are to be left out. -/
  toSkip : Nat := 0
  /-- How many bytes are still to be shown at most. -/
  left : Option Nat := none
  /-- The bytes of the last line. -/
  previous : Option Text := none
  /-- A mark stands for lines that say the same. -/
  marked : Bool := false
  /-- An input could not be read. -/
  isTroubled : Bool := false

namespace Progress

def line (l : Frame) (p : Progress) (bytes : Text) : Tool Progress := do
  let isSame := !l.all && p.previous == some bytes
  if isSame then
    if !p.marked then Tool.print "*\n".toList
  else Tool.print (l.lines p.offset (bytes.map Char.toNat))
  return { p with offset := p.offset + bytes.length, previous := some bytes, marked := isSame }

/-- Shows as many full lines as there are. If there has been trouble, nothing follows the next one
but the line before it once more. -/
def full (l : Frame) : Nat → Progress → Tool Progress
  | 0, p => return p
  | fuel + 1, p => do
    let bytes := p.pending.take l.perLine
    if bytes.length < l.perLine then return p
    let next ← line l { p with pending := p.pending.drop l.perLine } bytes
    if p.isTroubled then
      let again := p.previous.getD (List.replicate l.perLine '\x00')
      return { ← line l next again with pending := [], left := some 0 }
    full l fuel next

/-- Leaves out, and cuts off, what is not to be shown. -/
def wanted (p : Progress) (t : Text) : Text × Progress :=
  let skipped := t.take p.toSkip
  let t := t.drop p.toSkip
  let t := match p.left with
    | some n => t.take n
    | none => t
  (t, { p with toSkip := p.toSkip - skipped.length, left := p.left.map (· - t.length) })

end Progress

/-- Goes through the bytes of inputs in blocks; `step` says whether it wants more. It is given no
block when an input cannot be read and there has been one before. The result tells whether there was
any. -/
def eachBlock {σ : Type} (step : σ → Option Text → Tool (ForInStep σ)) :
    List Text → Bool → σ → Tool (σ × Bool)
  | [], isAny, state => return (state, isAny)
  | name :: names, isAny, state => do
    let afterTrouble (isAny : Bool) (state : σ) : Tool σ := do
      if !isAny then return state
      match ← step state none with
      | .yield state | .done state => return state
    match ← Feed.ofName name with
    | .error cause =>
      blameInput 1 name cause
      eachBlock step names isAny (← afterTrouble isAny state)
    | .ok feed =>
      let (state, isDone, feed) ← blocks Activity.readLimit state feed
      feed.close
      if isDone then return (state, true)
      let state ← match feed.failure? with
        | some errno =>
          blameInput 1 name (.os errno)
          afterTrouble true state
        | none => pure state
      eachBlock step names true state
where
  /-- Goes through the blocks of one input. -/
  blocks : Nat → σ → Feed → Tool (σ × Bool × Feed)
    | 0, state, f => return (state, false, f)
    | fuel + 1, state, f => do
      match ← f.block with
      | ([], f) => return (state, false, f)
      | (t, f) =>
        match ← step state (some t) with
        | .yield state => blocks fuel state f
        | .done state => return (state, true, f)

def showBytes (l : Frame) (skip : Nat) (limit : Option Nat) (names : List Text) : Tool Nat := do
  let step (p : Progress) (block : Option Text) : Tool (ForInStep Progress) := do
    let some t := block | return .yield { p with isTroubled := true }
    let (t, p) := p.wanted t
    let p ← Progress.full l (t.length + 1) { p with pending := p.pending ++ t }
    return if p.toSkip = 0 ∧ p.left = some 0 then .done p else .yield p
  let (p, isAny) ← eachBlock step names false { offset := skip, toSkip := skip, left := limit }
  if !isAny then return 0
  if p.toSkip ≠ 0 then Tool.refuse 1 "cannot skip past end of combined input".toList
  let p ← (if p.pending = [] then pure p
    else do
      Tool.print (l.lines p.offset (p.pending.map Char.toNat))
      return { p with offset := p.offset + p.pending.length } : Tool Progress)
  let last := l.address p.offset
  if last ≠ [] then Tool.printLine last
  return 0

/-! ### Strings -/

/-- A search for strings that end in a zero. -/
structure Strings where
  /-- The string so far; the last character comes first. -/
  found : Text := []
  progress : Progress

def printString (l : Frame) (s : Strings) : Tool Unit := do
  let shown := s.found.reverse.flatMap fun c =>
    match escapes.lookup c.toNat with
    | some letter => ['\\', letter]
    | none => [c]
  let front := l.address (s.progress.offset - s.found.length - 1)
  Tool.printLine (if front = [] then shown else front ++ ' ' :: shown)

def stepString (l : Frame) (least : Nat) (s : Strings) (c : Char) : Tool Strings := do
  let s := { s with progress := { s.progress with offset := s.progress.offset + 1 } }
  if isPrintable c then return { s with found := c :: s.found }
  if c = '\x00' ∧ least ≤ s.found.length ∧ s.found ≠ [] then printString l s
  return { s with found := [] }

/-- Shows the strings of at least so many characters. -/
def showStrings (l : Frame) (least skip : Nat) (limit : Option Nat) (names : List Text) : Tool Nat := do
  let step (s : Strings) (block : Option Text) : Tool (ForInStep Strings) := do
    let (t, progress) := s.progress.wanted (block.getD [])
    let s ← t.foldlM (stepString l least) { s with progress }
    return if s.progress.toSkip = 0 ∧ s.progress.left = some 0 then .done s else .yield s
  let (s, isAny) ← eachBlock step names false
    { progress := { offset := skip, toSkip := skip, left := limit } }
  if isAny ∧ s.progress.toSkip ≠ 0 then
    Tool.refuse 1 "cannot skip past end of combined input".toList
  return 0

/-! ### Options -/

/-- Reads styles; `whole` is the text that they are part of. -/
def stylesOf (whole : Text) : Nat → Text → Tool (List Style)
  | 0, _ => return []
  | _ + 1, [] => return []
  | fuel + 1, c :: rest => do
    let wrong {α : Type} (kind : String) (size : Text) : Tool α :=
      Tool.refuse 1 ("invalid type string ".toList ++ quotePlainly whole ++
        ";\nthis system doesn't provide a ".toList ++ size ++ ("-byte " ++ kind ++ " type").toList)
    let sized (names : List (Char × Nat)) (usual : Nat) (known : List Nat) (kind : String) :
        Tool (Nat × Text) := do
      match rest with
      | name :: more =>
        match names.lookup name with
        | some size => return (size, more)
        | none =>
          let digits := rest.takeWhile Char.isDigit
          if digits = [] then return (usual, rest)
          let size := (Text.natural? digits).getD 0
          if !known.contains size then wrong kind digits
          return (size, rest.drop digits.length)
      | [] => return (usual, [])
    let integral := [('C', 1), ('S', 2), ('I', 4), ('L', 8)]
    let (style, rest) ← (match c with
      | 'd' => do
        let (size, rest) ← sized integral 4 [1, 2, 4, 8] "integral"
        return ({ reading := .signed, size }, rest)
      | 'o' | 'u' | 'x' => do
        let (size, rest) ← sized integral 4 [1, 2, 4, 8] "integral"
        return ({ reading := .unsigned c, size }, rest)
      | 'f' => do
        let (size, rest) ← sized [('F', 4), ('D', 8), ('L', 16)] 8 [4, 8, 16] "floating point"
        return ({ reading := .real, size }, rest)
      | 'a' => return ({ reading := .named }, rest)
      | 'c' => return ({ reading := .character }, rest)
      | c =>
        Tool.refuse 1 ("invalid character '".toList ++ [c] ++ "' in type string ".toList ++
          quotePlainly whole) : Tool (Style × Text))
    let (style, rest) := match rest with
      | 'z' :: rest => ({ style with trailed := true }, rest)
      | rest => (style, rest)
    return style :: (← stylesOf whole fuel rest)

def typeOf? (letter : Char) : Option String :=
  [('a', "a"), ('b', "o1"), ('c', "c"), ('D', "u4"), ('d', "u2"), ('F', "fD"), ('e', "fD"), ('f', "fF"),
    ('H', "x4"), ('X', "x4"), ('i', "dI"), ('I', "dL"), ('L', "dL"), ('l', "dL"), ('O', "o4"), ('B', "o2"),
    ('o', "o2"), ('s', "d2"), ('h', "x2"), ('x', "x2")].lookup letter

def offset? (t : Text) : Option Nat :=
  let body := if t.head? = some '+' then t.drop 1 else t
  if t = [] then none
  else
    let base := if t.contains '.' then 10
      else if (body.take 2).map Char.toLower = ['0', 'x'] then 16
      else 8
    let body := if base = 16 then body.drop 2 else body
    if body.head? = some '+' then none else (Amount.read base "Bb" body).toOption

/-- The operands that are offsets: what to leave out, another address to show, and the files. -/
def offsetsOf (isOld : Bool) (names : List Text) : Option Nat × Option Nat × List Text :=
  let mayBe (t : Text) (digits : Bool) : Bool :=
    isOld || t.head? == some '+' || (digits && t.head?.any Char.isDigit)
  match names with
  | [a] =>
    match if mayBe a false then offset? a else none with
    | some n => (some n, none, [])
    | none => (none, none, names)
  | [a, b] =>
    match if mayBe b true then offset? b else none with
    | none => (none, none, names)
    | some n =>
      match if isOld then offset? a else none with
      | some m => (some m, some n, [])
      | none => (some n, none, [a])
  | [a, b, c] =>
    match isOld, offset? b, offset? c with
    | true, some m, some n => (some m, some n, [a])
    | _, _, _ => (none, none, names)
  | names => (none, none, names)

end Dump

namespace Utility

open Dump

def dumpBytes : Tool Nat := do
  let g ← Known.given
    { letters := "aBbcDdeFfHhIiLlOosvXx", valued := "AEjNSt", loose := "wY", named := "EY"
      long := [("skip-bytes", 'j'), ("address-radix", 'A'), ("read-bytes", 'N'), ("format", 't'),
        ("output-duplicates", 'v'), ("strings", 'Y'), ("traditional", 'T'), ("width", 'w'),
        ("endian", 'E')] }
  let amount (letter : Char) (base : Nat) (units : String) (value : Text) : Tool Nat := do
    match Amount.read base units value with
    | .ok n => return n
    | .error fault => Tool.refuse 1 (fault.message ['-', letter] value)
  let units := "bEGKkMmPTYZ0"
  let mut l : Frame := { styles := [], perLine := 0 }
  let mut limit : Option Nat := none
  let mut skip := 0
  let mut strings : Option Nat := none
  let mut width : Option Nat := none
  for (letter, value) in g.options do
    match letter with
    | 'A' =>
      match value.head?.getD ' ' with
      | 'd' => l := { l with base := some 10 }
      | 'o' => l := { l with base := some 8 }
      | 'x' => l := { l with base := some 16 }
      | 'n' => l := { l with base := none }
      | c =>
        Tool.refuse 1 ("invalid output address radix '".toList ++ [c] ++
          "'; it must be one character from [doxn]".toList)
    | 'j' => skip ← amount 'j' 0 units value
    | 'N' => limit := some (← amount 'N' 0 units value)
    | 'S' => strings := some (← amount 'S' 0 units value)
    | 'Y' => strings := some (← if value = [] then pure 3 else amount 'S' 0 units value)
    | 't' => l := { l with styles := l.styles ++ (← stylesOf value (value.length + 1) value) }
    | 'v' => l := { l with all := true }
    | 'w' =>
      let n ← if value = [] then pure 32 else amount 'w' 10 "" value
      if n = 0 then throw (.signalled 6)
      width := some n
    | 'E' =>
      if value ≠ [] ∧ value.isPrefixOf "big".toList then l := { l with isBig := true }
      else if value ≠ [] ∧ value.isPrefixOf "little".toList then l := { l with isBig := false }
      else
        let problem := if value = [] then "ambiguous" else "invalid"
        Tool.complain (problem.toList ++ " argument ".toList ++ quotePlainly value ++
          " for '--endian'".toList)
        for t in ["Valid arguments are:", "  - 'little'", "  - 'big'"] do Tool.tell t.toList
        Tool.tell "Try 'od --help' for more information.".toList
        Tool.stop 1
    | c =>
      if let some type := typeOf? c then
        l := { l with styles := l.styles ++ (← stylesOf [] 8 type.toList) }
  let isModern := g.options.any fun (c, _) => "AjNSYtvwE".toList.contains c
  let isOld := g.has 'T'
  let (old, second, names) :=
    if isModern ∧ !isOld then (none, none, g.operands) else offsetsOf isOld g.operands
  if isOld ∧ 1 < names.length then
    Tool.complain ("extra operand ".toList ++ quotePlainly (names.getD 1 []))
    Tool.misuse 1 "compatibility mode supports at most one file".toList
  skip := old.getD skip
  l := { l with second := second.map fun (n : Nat) => (n : Int) - skip }
  let names := inputNames names
  match strings with
  | some least => showStrings l least skip limit names
  | none =>
    if l.styles = [] then l := { l with styles := [{ reading := .unsigned 'o', size := 2 }] }
    let unit := (l.styles.map Style.size).foldl max 1
    let usual := if unit < 16 then unit * (16 / unit) else unit
    let perLine ← match width with
      | none => pure usual
      | some n =>
        if n % unit = 0 then pure n
        else do
          Tool.complain ("warning: invalid width ".toList ++ Text.decimal n ++ "; using ".toList ++
            Text.decimal unit ++ " instead".toList)
          pure unit
    showBytes { l with perLine } skip limit names

end Utility
end LineShell
