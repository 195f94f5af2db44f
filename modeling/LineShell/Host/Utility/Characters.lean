import LineShell.Host.Utility.Concatenate

/-! `tr`: characters replaced, deleted, or not repeated. -/
namespace LineShell.Utility

inductive SetPart
  | range (first last : Char)
  | named (name : Text)
  /-- A character so many times, or as often as it takes to fill the set up. -/
  | many (c : Char) (count : Option Nat)

/-- A character of a set as it was written: whether a backslash made it what it is. -/
abbrev SetChar := Char × Bool

/-- The characters of a set, escapes carried out, and whether a backslash stood at the end alone. -/
def setChars : Nat → Text → List SetChar × Bool
  | 0, _ => ([], false)
  | _ + 1, [] => ([], false)
  | _ + 1, ['\\'] => ([('\\', true)], true)
  | n + 1, '\\' :: c :: rest =>
    let digits := ((c :: rest).take 3).takeWhile Script.Format.isOctal
    let digits := if 0o377 < (Mode.octal? digits).getD 0 then digits.take 2 else digits
    let (value, rest) : Char × Text :=
      if digits ≠ [] then (Script.Format.octalByte digits, (c :: rest).drop digits.length)
      else if c = 'e' then (c, rest)
      else ((Script.Format.letterEscape? c).getD c, rest)
    let (more, isOpen) := setChars n rest
    ((value, true) :: more, isOpen)
  | n + 1, c :: rest =>
    let (more, isOpen) := setChars n rest
    ((c, false) :: more, isOpen)

/-- The text inside a construct such as `[:` and `:]`, and what is behind it. -/
def inside? (sign : Char) : List SetChar → List SetChar → Option (Text × List SetChar)
  | taken, (c, false) :: (']', false) :: rest =>
    if c = sign then some (taken.reverse.map (·.1), rest)
    else inside? sign ((c, false) :: taken) ((']', false) :: rest)
  | taken, c :: rest => inside? sign (c :: taken) rest
  | _, [] => none

def shownChar (c : Char) : Text :=
  if c = '\\' then ['\\', '\\'] else if isPrintable c then [c] else escapeCode c

def classMembers (name : Text) : Text :=
  ((List.range 256).map Char.ofNat).filter (Script.Pattern.classOf name)

/-- The count of a repetition: digits, octal ones behind a zero. Zero is as good as none. -/
def repeatCount? (t : Text) : Option (Option Nat) :=
  if t = [] then some none
  else if !t.all Char.isDigit then none
  else
    let n := if t.head? = some '0' then Mode.octal? t else Text.natural? t
    n.map fun n => if n = 0 then none else some n

/-- The part that a character or a range of them makes, and what is behind it. -/
def plainPart : List SetChar → Tool (Option (SetPart × List SetChar))
  | (first, _) :: ('-', false) :: (last, _) :: rest => do
    if last < first then
      Tool.refuse 1 ("range-endpoints of '".toList ++ shownChar first ++ '-' :: shownChar last ++
        "' are in reverse collating sequence order".toList)
    return some (.range first last, rest)
  | (c, _) :: rest => return some (.range c c, rest)
  | [] => return none

def setParts : Nat → List SetChar → Tool (List SetPart)
  | 0, _ => return []
  | n + 1, t => do
    let plain : Tool (List SetPart) := do
      let some (part, rest) ← plainPart t | return []
      return part :: (← setParts n rest)
    match t with
    | [] => return []
    | ('[', false) :: (':', false) :: rest =>
      match inside? ':' [] rest with
      | some (name, rest) =>
        if Script.Pattern.classNames.contains name then
          return .named name :: (← setParts n rest)
        else if name = [] then
          Tool.refuse 1 "missing character class name '[::]'".toList
        else Tool.refuse 1 ("invalid character class ".toList ++ quotePlainly name)
      | none => plain
    | ('[', false) :: ('=', false) :: rest =>
      match inside? '=' [] rest with
      | some ([c], rest) => return .range c c :: (← setParts n rest)
      | some ([], _) => Tool.refuse 1 "missing equivalence class character '[==]'".toList
      | some (t, _) =>
        Tool.refuse 1 (t ++ ": equivalence class operand must be a single character".toList)
      | none => plain
    | ('[', false) :: (c, _) :: ('*', false) :: rest =>
      let count := rest.takeWhile fun (c, _) => c != ']'
      match rest.drop count.length with
      | _ :: behind =>
        match repeatCount? (count.map (·.1)) with
        | some count => return .many c count :: (← setParts n behind)
        | none =>
          Tool.refuse 1 ("invalid repeat count ".toList ++ quotePlainly (count.map (·.1)) ++
            " in [c*n] construct".toList)
      | [] => plain
    | _ => plain

def readSet (t : Text) : Tool (List SetPart) := do
  let (chars, ended) := setChars (t.length + 1) t
  if ended then
    Tool.complain "warning: an unescaped backslash at end of string is not portable".toList
  setParts (chars.length + 1) chars

namespace SetPart

/-- The characters of a part; a repetition without a count fills `room`. -/
def members (room : Nat) : SetPart → Text
  | range first last =>
    ((List.range (last.toNat + 1)).drop first.toNat).map Char.ofNat
  | named name => classMembers name
  | many c count => List.replicate (count.getD room) c

end SetPart

/-- The characters of a set; a repetition without a count fills it up to a length. -/
def membersOf (length : Nat) (parts : List SetPart) : Text :=
  let fixed := (parts.flatMap (SetPart.members 0)).length
  parts.flatMap (SetPart.members (length - fixed))

/-- Whether classes of letters of one case stand where those of the other do. -/
def areAligned (first second : List SetPart) : Bool :=
  let marks (parts : List SetPart) : List Nat :=
    (parts.foldl (fun (index, found) part =>
      let found := match part with
        | .named name =>
          if name = "upper".toList ∨ name = "lower".toList then index :: found else found
        | _ => found
      (index + (part.members 0).length, found)) (0, ([] : List Nat))).2
  (marks second).all (marks first).contains

def checkTarget (complement truncated : Bool) (first second : List SetPart) : Tool Unit := do
  let isCase (name : Text) : Bool := name == "upper".toList || name == "lower".toList
  let bad := second.any fun part =>
    match part with
    | .named name => !isCase name
    | _ => false
  if bad then
    Tool.refuse 1 ("when translating, the only character classes that may appear in\n" ++
      "string2 are 'upper' and 'lower'").toList
  if second.isEmpty ∧ !truncated then
    Tool.refuse 1 "when not truncating set1, string2 must be non-empty".toList
  if !complement ∧ !areAligned first second then
    Tool.refuse 1 "misaligned [:upper:] and/or [:lower:] construct".toList
  let sourceLength := if complement then 256 else (membersOf 0 first).length
  let endsInClass : Bool := second.getLast? matches some (.named _)
  if (membersOf 0 second).length < sourceLength ∧ endsInClass ∧ !truncated then
    Tool.refuse 1 ("when translating with string1 longer than string2,\n" ++
      "the latter string must not end with a character class").toList

/-- What becomes of text: what each character turns into, if anything is left of it, and which ones
are not repeated. -/
structure Translation where
  table : Array (Option Char)
  squeezed : Char → Bool

/-- Carries a translation out; the last character that came out is known. -/
def Translation.apply (tr : Translation) (last : Option Char) (t : Text) : Text × Option Char :=
  let (out, last) := t.foldl (fun (out, last) c =>
    match (tr.table[c.toNat]?).join with
    | none => (out, last)
    | some d => if last = some d ∧ tr.squeezed d then (out, last) else (d :: out, some d))
    (([] : Text), last)
  (out.reverse, last)

def tableOf (f : Char → Option Char) : Array (Option Char) :=
  ((List.range 256).map fun n => f (Char.ofNat n)).toArray

/-- Replaces characters by others; a set that is too short goes on with its last character. -/
def replacement (source target : Text) (truncated : Bool) : Array (Option Char) :=
  let target := if truncated then target
    else target ++ List.replicate (source.length - target.length) (target.getLastD '\x00')
  (source.zip target).foldl (fun table (c, d) => table.set! c.toNat (some d)) (tableOf some)

def translate : Tool Nat := do
  let g ← Known.given
    { letters := "cCdst", mixed := false
      long := [("complement", 'c'), ("delete", 'd'), ("squeeze-repeats", 's'),
        ("truncate-set1", 't')] }
  let deletes := g.has 'd'
  let squeezes := g.has 's'
  let wrong (message : Text) (why : String) : Tool (List SetPart × Option (List SetPart)) := do
    Tool.complain message
    if why ≠ "" then Tool.tell why.toList
    Tool.tell ("Try '".toList ++ (← Tool.process).name ++ " --help' for more information.".toList)
    Tool.stop 1
  let (first, second) ← match g.operands with
    | [] => wrong "missing operand".toList ""
    | [one] =>
      if deletes ∧ squeezes then
        wrong ("missing operand after ".toList ++ quotePlainly one)
          "Two strings must be given when both deleting and squeezing repeats."
      else if deletes ∨ squeezes then do pure (← readSet one, none)
      else
        wrong ("missing operand after ".toList ++ quotePlainly one)
          "Two strings must be given when translating."
    | [one, two] =>
      if deletes ∧ !squeezes then
        wrong ("extra operand ".toList ++ quotePlainly two)
          "Only one string may be given when deleting without squeezing repeats."
      else do
        let first ← readSet one
        pure (first, some (← readSet two))
    | _ :: _ :: extra :: _ => wrong ("extra operand ".toList ++ quotePlainly extra) ""
  let complement := g.has 'c' || g.has 'C'
  let inner := membersOf 0 first
  let source := if complement then ((List.range 256).map Char.ofNat).filter (!inner.contains ·)
    else inner
  let target := second.map (membersOf source.length)
  let tr : Translation ← match second with
    | none =>
      if deletes then
        pure { table := tableOf fun c => if source.contains c then none else some c
               squeezed := fun _ => false }
      else pure { table := tableOf some, squeezed := source.contains }
    | some parts =>
      let last := (target.getD []).contains
      if deletes then
        pure { table := tableOf fun c => if source.contains c then none else some c
               squeezed := last }
      else do
        checkTarget complement (g.has 't') first parts
        pure { table := replacement source (target.getD []) (g.has 't')
               squeezed := fun c => squeezes && last c }
  let step (last : Option Char) (t : Text) : Tool (Option Char) := do
    let (t, last) := tr.apply last t
    Tool.print t
    return last
  let (_, feed) ← Feed.foldBlocks step Activity.readLimit none { unit := 8192 }
  match feed.failure? with
  | some errno => Tool.refuse 1 ("read error: ".toList ++ errno.text)
  | none => return 0

end LineShell.Utility
