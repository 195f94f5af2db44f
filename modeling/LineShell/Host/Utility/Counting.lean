import LineShell.Host.Utility.Concatenate

/-! Counting and numbering lines. -/
namespace LineShell.Utility

structure Counts where
  lines : Nat := 0
  words : Nat := 0
  bytes : Nat := 0
  /-- The longest line. -/
  width : Nat := 0
  /-- The width of the line so far. -/
  column : Nat := 0
  /-- Whether a word is being read. -/
  inside : Bool := false

namespace Counts

def add (n : Counts) (c : Char) : Counts :=
  let isBlank := isWhite c
  let starts := !isBlank && !n.inside && (32 ≤ c.toNat && c.toNat < 127)
  let column :=
    if c = '\n' ∨ c = '\r' ∨ c = '\x0c' then 0
    else if c = '\t' then (n.column / 8 + 1) * 8
    else if 32 ≤ c.toNat ∧ c.toNat < 127 then n.column + 1
    else n.column
  { lines := n.lines + (if c = '\n' then 1 else 0)
    words := n.words + (if starts then 1 else 0)
    bytes := n.bytes + 1
    width := max n.width column, column
    inside := if isBlank then false else n.inside || starts }

end Counts

/-- The kinds of counts that options ask for, in the order in which they are printed. -/
def countKinds (g : Given) : List Char :=
  if g.options.all (·.1 == 't') then ['l', 'w', 'c'] else ['l', 'w', 'm', 'c', 'L'].filter g.has

/-- How wide counts are printed: as wide as the sizes of the files need, and wider for what has no
size. -/
def countWidth (v : View) (names : List Text) (kinds : Nat) : Nat :=
  let nodes := names.filterMap v.node?
  let total := sumOf (nodes.map v.files.size)
  let least := if nodes.any (fun node => !node.isFile) ∨ names = [] ∨ names.contains ['-'] then 7
    else 1
  if names.length ≤ 1 ∧ kinds = 1 then 1 else max least (Text.decimal total).length

def count : Tool Nat := do
  let g ← Known.given
    { letters := "lwcmL", valued := "tf", named := "tf"
      long := [("lines", 'l'), ("words", 'w'), ("bytes", 'c'), ("chars", 'm'),
        ("max-line-length", 'L'), ("total", 't'), ("files0-from", 'f')] }
  let kinds := countKinds g
  let width := countWidth (← Tool.view) g.operands kinds.length
  let report (n : Counts) (name : Text) : Tool Unit := do
    let values := kinds.map fun k =>
      match k with
      | 'l' => n.lines
      | 'w' => n.words
      | 'L' => n.width
      | _ => n.bytes
    let columns := Text.joined [' '] (values.map (padded width))
    Tool.printLine (if name = [] then columns else columns ++ ' ' :: quoteIfNeeded name)
  let mut total : Counts := {}
  for name in inputNames g.operands do
    match ← Feed.ofName name with
    | .error cause => blameInput 1 name cause
    | .ok feed =>
      let step (n : Counts) (t : Text) : Tool Counts := return t.foldl Counts.add n
      let (n, feed) ← Feed.foldBlocks step Activity.readLimit {} { feed with unit := 16384 }
      feed.close
      match feed.failure? with
      | some errno => blameInput 1 name (.os errno)
      | none => pure ()
      if feed.failure?.isNone ∨ feed.failure? = some .isDirectory then
        report n (if g.operands = [] then [] else name)
      total :=
        { lines := total.lines + n.lines, words := total.words + n.words,
          bytes := total.bytes + n.bytes, width := max total.width n.width }
  if 1 < g.operands.length then report total "total".toList
  return 0

/-! ### Numbered lines -/

structure Numbering where
  /-- Which lines are numbered: all, those that are not empty, or none. -/
  style : Char := 't'
  form : String := "rn"
  width : Nat := 6
  separator : Text := ['\t']
  step : Int := 1
  start : Int := 1

def Numbering.text (n : Numbering) (i : Int) : Text :=
  let digits := Text.decimal i.natAbs
  let sign := if i < 0 then ['-'] else []
  let space (c : Char) := List.replicate (n.width - sign.length - digits.length) c
  match n.form with
  | "ln" => sign ++ digits ++ space ' '
  | "rz" => sign ++ space '0' ++ digits
  | _ => space ' ' ++ sign ++ digits

def numberLines : Tool Nat := do
  let g ← Known.given
    { letters := "p", valued := "bdfhilnsvw"
      long := [("body-numbering", 'b'), ("number-format", 'n'), ("number-separator", 's'),
        ("starting-line-number", 'v'), ("number-width", 'w'), ("line-increment", 'i'),
        ("join-blank-lines", 'l'), ("no-renumber", 'p'), ("header-numbering", 'h'),
        ("footer-numbering", 'f'), ("section-delimiter", 'd')] }
  let number (c : Char) (usual : Int) (what : String) : Tool Int := do
    match g.value? c with
    | none => return usual
    | some t =>
      let (sign, digits) : Int × Text := match t with
        | '-' :: rest => (-1, rest)
        | '+' :: rest => (1, rest)
        | _ => (1, t)
      match Text.natural? digits with
      | some n => return sign * n
      | none => Tool.refuse 1 (("invalid " ++ what ++ ": ").toList ++ quotePlainly t)
  let width ← number 'w' 6 "line number field width"
  let styleOf (c usual : Char) : Char := ((g.value? c).bind List.head?).getD usual
  let start ← number 'v' 1 "starting line number"
  let n : Numbering :=
    { form := String.ofList ((g.value? 'n').getD "rn".toList), width := width.toNat
      separator := (g.value? 's').getD ['\t'], start
      step := ← number 'i' 1 "line number increment" }
  let join := (← number 'l' 1 "line number of blank lines").toNat
  let delimiter := match g.value? 'd' with
    | some [c] => [c, ':']
    | some t => t
    | none => ['\\', ':']
  let blank := List.replicate (n.width + n.separator.length) ' '
  let step (state : Int × Nat × Char) (line : Text) : Tool (ForInStep (Int × Nat × Char)) := do
    let (next, blanks, style) := state
    let t := bare line
    let section? : Option Char :=
      if t = delimiter ++ delimiter ++ delimiter then some (styleOf 'h' 'n')
      else if t = delimiter ++ delimiter then some (styleOf 'b' 't')
      else if t = delimiter then some (styleOf 'f' 'n')
      else none
    match section? with
    | some style =>
      Tool.printLine []
      return .yield (if g.has 'p' then next else n.start, 0, style)
    | none =>
      let blanks := if t = [] then blanks + 1 else 0
      let counts := match style with
        | 'a' => t != [] || blanks == join
        | 't' => t != []
        | _ => false
      let blanks := if blanks = join then 0 else blanks
      if counts then
        Tool.printLine (n.text next ++ n.separator ++ t)
        return .yield (next + n.step, blanks, style)
      else
        Tool.printLine (blank ++ t)
        return .yield (next, blanks, style)
  let _ ← eachLine 1 step (inputNames g.operands) (start, 0, styleOf 'b' 't')
  return 0

end LineShell.Utility
