import LineShell.Host.Utility.Amount
import LineShell.Host.Utility.Concatenate

/-! `cmp`: where two files differ first, or everywhere, byte by byte. -/
namespace LineShell.Comparing

open Utility

inductive Telling
  /-- The first difference. -/
  | first
  | all
  /-- That there is one, in the status alone. -/
  | nothing
  /-- As `first`, but nobody reads it. -/
  | unread
  deriving DecidableEq

structure ByteReport where
  telling : Telling
  /-- Bytes are shown as characters too. -/
  shows : Bool := false
  /-- How wide the numbers of bytes are. -/
  width : Nat := 1
  first : Text
  second : Text

/-- How far two files have been compared. -/
structure ByteProgress where
  one : Feed
  two : Feed
  /-- The number of the next byte. -/
  byte : Nat := 1
  /-- How many lines have ended. -/
  lines : Nat := 0
  /-- The last byte ended a line. -/
  isFresh : Bool := true
  differs : Bool := false
  /-- How many bytes are still to be compared at most. -/
  left : Option Nat := none

namespace ByteReport

/-- Prints what is to be told about two bytes that differ, and says whether to go on. -/
def difference (r : ByteReport) (p : ByteProgress) (a b : Char) : Tool Bool := do
  let octal (c : Char) : Text := ({ width := 3 : Directive }).unsigned 'o' c.toNat
  let number := ({ width := r.width : Directive }).unsigned 'u' p.byte
  match r.telling with
  | .nothing | .unread => return false
  | .first =>
    let line := Text.decimal (p.lines + 1)
    let front := r.first ++ ' ' :: r.second ++ " differ: ".toList
    if r.shows then
      Tool.printLine (front ++ "byte ".toList ++ Text.decimal p.byte ++ ", line ".toList ++ line ++
        " is ".toList ++ octal a ++ ' ' :: visible true a ++ ' ' :: octal b ++ ' ' :: visible true b)
    else
      Tool.printLine (front ++ "char ".toList ++ Text.decimal p.byte ++ ", line ".toList ++ line)
    return false
  | .all =>
    if r.shows then
      let left := ({ flags := ['-'], width := 4 : Directive }).pad (visible true a)
      Tool.printLine (number ++ ' ' :: octal a ++ ' ' :: left ++ ' ' :: octal b ++ ' ' :: visible true b)
    else Tool.printLine (number ++ ' ' :: octal a ++ ' ' :: octal b)
    return true

def ending (r : ByteReport) (p : ByteProgress) (name : Text) : Tool Unit := do
  if r.telling = .nothing then return ()
  let front := "cmp: EOF on ".toList ++ name
  if p.byte = 1 then Tool.tell (front ++ " which is empty".toList)
  else
    let place := front ++ " after byte ".toList ++ Text.decimal (p.byte - 1)
    if r.telling = .first then
      Tool.tell (place ++ (if p.isFresh then ", line ".toList ++ Text.decimal p.lines
        else ", in line ".toList ++ Text.decimal (p.lines + 1)))
    else Tool.tell place

end ByteReport

/-- Makes sure that there is a byte to look at, unless the file has ended. -/
def filled (name : Text) (f : Feed) : Tool Feed := do
  if f.buffer ≠ [] ∨ f.ended.isSome then return f
  let f ← f.more
  match f.failure? with
  | some errno => Tool.refuse 2 (name ++ ": ".toList ++ errno.text)
  | none => return f

def skipped (name : Text) : Nat → Nat → Feed → Tool Feed
  | 0, _, f => return f
  | fuel + 1, n, f => do
    if n = 0 then return f
    let f ← filled name f
    if f.buffer = [] then return f
    skipped name fuel (n - f.buffer.length) { f with buffer := f.buffer.drop n }

/-- Compares two files from here on, and gives the status. -/
def compareBytes (r : ByteReport) : Nat → ByteProgress → Tool Nat
  | 0, _ => return 2
  | fuel + 1, p => do
    let status := if p.differs then 1 else 0
    if p.left = some 0 then return status
    let one ← filled r.first p.one
    let two ← filled r.second p.two
    match one.buffer, two.buffer with
    | [], [] => return status
    | [], _ =>
      r.ending p r.first
      return 1
    | _, [] =>
      r.ending p r.second
      return 1
    | a :: as, b :: bs =>
      let mut differs := p.differs
      if a ≠ b then
        differs := true
        if !(← r.difference p a b) then return 1
      compareBytes r fuel
        { one := { one with buffer := as }, two := { two with buffer := bs }, byte := p.byte + 1
          lines := if a = '\n' then p.lines + 1 else p.lines, isFresh := a = '\n', differs
          left := p.left.map (· - 1) }

def misuse {α : Type} (message : Text) : Tool α := do
  Tool.complain message
  Tool.refuse 2 ("Try '".toList ++ (← Tool.process).name ++ " --help' for more information.".toList)

def bytesOf (option : String) (t : Text) : Tool Nat := do
  match Amount.read 0 "kKMGTPEZY0" t with
  | .ok n => return n
  | .error .excessive => return Amount.limit
  | .error _ => misuse ("invalid --".toList ++ option.toList ++ " value ".toList ++ quotePlainly t)

def numberWidth (v : View) (limit : Option Nat) (files : List (Text × Nat)) : Nat :=
  let sizes := files.filterMap fun (name, skip) =>
    match v.node? name with
    | some (.file id) => some (v.files.size (.file id) - skip)
    | _ => none
  (Text.decimal ((sizes ++ limit.toList).foldl min (Nat.pow 2 63 - 1))).length

end Comparing

namespace Utility

open Comparing

def compareFiles : Tool Nat := do
  let g ← Known.given
    { letters := "bcls", valued := "in", status := 2
      manual := ["\x00: Try '\x00 --help' for more information."]
      long := [("print-bytes", 'b'), ("print-chars", 'c'), ("ignore-initial", 'i'), ("verbose", 'l'),
        ("bytes", 'n'), ("silent", 's'), ("quiet", 's')] }
  let mut telling : Option Telling := none
  let mut skips := (0, 0)
  let mut limit : Option Nat := none
  for (letter, value) in g.options do
    match letter with
    | 'l' | 's' =>
      let new := if letter = 'l' then Telling.all else .nothing
      if telling.any (· ≠ new) then misuse "options -l and -s are incompatible".toList
      telling := some new
    | 'i' =>
      let (one, two) := (Text.cut? ':' value).getD (value, value)
      skips := (max skips.1 (← bytesOf "ignore-initial" one), max skips.2 (← bytesOf "ignore-initial" two))
    | 'n' =>
      let n ← bytesOf "bytes" value
      limit := some (min n (limit.getD n))
    | _ => pure ()
  let (first, second, more) ← match g.operands with
    | [] =>
      let p ← Tool.process
      misuse ("missing operand after ".toList ++ quotePlainly (p.arguments.getLast?.getD p.name))
    | [one] => pure (one, ['-'], [])
    | one :: two :: more => pure (one, two, more)
  if let some t := more[0]? then skips := (max skips.1 (← bytesOf "ignore-initial" t), skips.2)
  if let some t := more[1]? then skips := (skips.1, max skips.2 (← bytesOf "ignore-initial" t))
  if let some t := more[2]? then misuse ("extra operand ".toList ++ quotePlainly t)
  let opened (name : Text) : Tool Feed := do
    match ← Feed.ofName name with
    | .ok f => return f
    | .error cause =>
      if telling = some .nothing then Tool.stop 2
      Tool.refuse 2 (name ++ ": ".toList ++ reason cause)
  let one ← opened first
  let two ← opened second
  let v ← Tool.view
  let isSame : Bool := match v.find first, v.find second with
    | .ok (here, _), .ok (there, _) => here == there && first != ['-'] && second != ['-']
    | _, _ => first == ['-'] && second == ['-']
  if isSame ∧ skips.1 = skips.2 then return 0
  let system ← Tool.act .system
  let isUnread : Bool := match system.file? (← Tool.process) 1 with
    | some { source := .device .null, .. } => true
    | _ => false
  let asked := telling.getD .first
  let asked := if isUnread ∧ asked ≠ .nothing then Telling.unread else asked
  let one ← skipped first Activity.readLimit skips.1 one
  let two ← skipped second Activity.readLimit skips.2 two
  let width := numberWidth v limit [(first, skips.1), (second, skips.2)]
  compareBytes { telling := asked, shows := g.has 'b' || g.has 'c', width, first, second } Activity.readLimit
    { one, two, left := limit }

end Utility
end LineShell
