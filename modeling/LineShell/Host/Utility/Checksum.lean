import LineShell.Host.Number.Digest
import LineShell.Host.Utility.Concatenate

/-!
`cksum`, `sum` and programs such as `md5sum`: numbers that stand for files, printed and checked.
-/
namespace LineShell.Checksum

open Utility

inductive Algorithm
  | turned
  | plain
  | cyclic
  | md5
  | sha1
  | sha2 (bits : Nat)
  | blake (bits : Nat)
  deriving DecidableEq

namespace Algorithm

/-- The names of algorithms in options, with the names in front of digests. -/
def names : List (String × String × Algorithm) :=
  [("bsd", "BSD", .turned), ("sysv", "SYSV", .plain), ("crc", "CRC", .cyclic), ("md5", "MD5", .md5),
    ("sha1", "SHA1", .sha1), ("sha224", "SHA224", .sha2 224), ("sha256", "SHA256", .sha2 256),
    ("sha384", "SHA384", .sha2 384), ("sha512", "SHA512", .sha2 512),
    ("blake2b", "BLAKE2b", .blake 512)]

def name : Algorithm → String
  | .turned => "BSD"
  | .plain => "SYSV"
  | .cyclic => "CRC"
  | .md5 => "MD5"
  | .sha1 => "SHA1"
  | .sha2 bits => "SHA" ++ toString bits
  | .blake _ => "BLAKE2b"

def isSum : Algorithm → Bool
  | .turned | .plain | .cyclic => true
  | _ => false

def digest (a : Algorithm) (t : Text) : Text :=
  let bytes := t.map Char.toNat
  Digest.hexadecimal (match a with
    | .md5 => Digest.md5 bytes
    | .sha1 => Digest.sha1 bytes
    | .sha2 bits => Digest.sha2 bits bytes
    | .blake bits => Digest.blake (bits / 8) bytes
    | _ => [])

def length : Algorithm → Nat
  | .md5 => 32
  | .sha1 => 40
  | .sha2 bits | .blake bits => bits / 4
  | _ => 0

def sum (a : Algorithm) (t : Text) : Text :=
  let bytes := t.map Char.toNat
  let size (unit : Nat) : Nat := (t.length + unit - 1) / unit
  match a with
  | .turned =>
    let ds := Text.decimal (Digest.turnedSum bytes)
    List.replicate (5 - ds.length) '0' ++ ds ++ ' ' :: padded 5 (size 1024)
  | .plain => Text.decimal (Digest.plainSum bytes) ++ ' ' :: Text.decimal (size 512)
  | _ => Text.decimal (Digest.cyclic bytes) ++ ' ' :: Text.decimal t.length

end Algorithm

/-! ### Names -/

/-- Whether a name does not fit on a line as it is. -/
def isAwkward (name : Text) : Bool := name.any fun c => c == '\\' || c == '\n' || c == '\r'

def shownName (escapes : Bool) (name : Text) : Text :=
  if !escapes then name
  else
    name.flatMap fun c => match c with
      | '\n' => ['\\', 'n']
      | '\r' => ['\\', 'r']
      | '\\' => ['\\', '\\']
      | c => [c]

def hiddenName? : Text → Option Text
  | [] => some []
  | '\\' :: c :: rest =>
    let known := [('n', '\n'), ('r', '\r'), ('\\', '\\')]
    match known.lookup c with
    | some c => (hiddenName? rest).map (c :: ·)
    | none => none
  | ['\\'] => none
  | '\x00' :: _ => none
  | c :: rest => (hiddenName? rest).map (c :: ·)

/-! ### Reading lines -/

structure Task where
  algorithm : Algorithm
  /-- The algorithm is told by each line. -/
  isOpen : Bool := false
  isTagged : Bool := false
  isBinary : Bool := false
  /-- What ends a line. -/
  ends : Char := '\n'
  checks : Bool := false
  ignoresMissing : Bool := false
  isQuiet : Bool := false
  isSilent : Bool := false
  isStrict : Bool := false
  warns : Bool := false

/-- A line that says which digest a file has. -/
structure Entry where
  algorithm : Algorithm
  digest : Text
  name : Text

def isBlank (c : Char) : Bool := c == ' ' || c == '\t'

def isDigest (a : Algorithm) (t : Text) : Bool :=
  t.length == a.length && t.all fun c => Quantity.digitValue c < 16

/-- A name in front of its digest: what stands behind the opening bracket. -/
def named? (a : Algorithm) (escapes : Bool) (t : Text) : Option Entry :=
  let behind := (t.reverse.takeWhile (· != ')')).reverse
  let name := t.take (t.length - behind.length - 1)
  if !t.contains ')' then none
  else
    match behind.dropWhile isBlank with
    | '=' :: rest =>
      let digest := rest.dropWhile isBlank
      if isDigest a digest then
        (if escapes then hiddenName? name else some name).map fun name => ⟨a, digest, name⟩
      else none
    | _ => none

/-- The algorithm whose name stands at the front of a line, and what follows it. -/
def algorithmOf (t : Text) : Option (Algorithm × Text) :=
  let word := t.takeWhile fun c => c != ' ' && c != '(' && c != '-'
  (Algorithm.names.find? fun (_, name, a) => name.toList == word && !a.isSum).map fun (_, _, a) =>
    (a, t.drop word.length)

/-- Reads a line. The result tells as well whether names follow digests after a single blank; that
is the same for all lines. -/
def entry? (task : Task) (single : Option Bool) (line : Text) : Option Entry × Option Bool :=
  let t := line.dropWhile isBlank
  let escapes := t.head? = some '\\'
  let t := if escapes then t.drop 1 else t
  let told := (algorithmOf t).filter fun (a, _) => task.isOpen || a.name == task.algorithm.name
  match told with
  | some (a, rest) =>
    let (a, rest) := match a, rest with
      | .blake _, '-' :: more =>
        let digits := more.takeWhile Char.isDigit
        (Algorithm.blake ((Text.natural? digits).getD 0), more.drop digits.length)
      | _, _ => (a, rest)
    let rest := if rest.head? = some ' ' then rest.drop 1 else rest
    match rest with
    | '(' :: rest => (named? a escapes rest, single)
    | _ => (none, single)
  | none =>
    if task.isOpen then (none, single)
    else
      let digits := t.takeWhile fun c => !isBlank c
      let a := match task.algorithm with
        | .blake _ => Algorithm.blake (4 * digits.length)
        | a => a
      let fits := match a with
        | .blake bits => 0 < bits && bits ≤ 512 && bits % 8 == 0
        | _ => true
      if !(isDigest a digits && fits) ∨ t.length < a.length + 2 then (none, single)
      else
        let rest := t.drop (digits.length + 1)
        let isSingle := rest.length == 1 || (rest.head? != some ' ' && rest.head? != some '*')
        let result (name : Text) (single : Option Bool) : Option Entry × Option Bool :=
          ((if escapes then hiddenName? name else some name).map fun name => ⟨a, digits, name⟩, single)
        if isSingle then
          if single = some false then (none, single) else result rest (some true)
        else if single = some true then result rest single
        else result (rest.drop 1) (some false)

/-! ### Checking -/

structure Tally where
  line : Nat := 0
  single : Option Bool := none
  proper : Nat := 0
  improper : Nat := 0
  unread : Nat := 0
  different : Nat := 0
  matched : Bool := false

def counted (n : Nat) (one many : String) : Text :=
  "WARNING: ".toList ++ Text.decimal n ++ (if n = 1 then one else many).toList

def checkLine (task : Task) (source : Text) (t : Tally) (line : Text) : Tool Tally := do
  let t := { t with line := t.line + 1 }
  let line := bare line
  let line := if line.getLast? = some '\r' then line.dropLast else line
  if line = [] ∨ line.head? = some '#' then return t
  let (entry, single) := entry? task t.single line
  let t := { t with single }
  match entry.filter fun e => !(source == ['-'] && e.name == ['-']) with
  | none =>
    if task.warns then
      let shown := if source = ['-'] then "'standard input'".toList else quoteIfNeeded source
      Tool.complain (shown ++ ": ".toList ++ Text.decimal t.line ++ ": improperly formatted ".toList ++
        task.algorithm.name.toList ++ " checksum line".toList)
    return { t with improper := t.improper + 1 }
  | some e =>
    let t := { t with proper := t.proper + 1 }
    let escapes := isAwkward e.name
    let shown := (if escapes then ['\\'] else []) ++ shownName escapes e.name
    match ← Tool.content e.name with
    | .error cause =>
      if task.ignoresMissing ∧ cause = .os .noEntry then return t
      Tool.complain (quoteIfNeeded e.name ++ ": ".toList ++ reason cause)
      if !task.isSilent then Tool.printLine (shown ++ ": FAILED open or read".toList)
      return { t with unread := t.unread + 1 }
    | .ok text =>
      let isSame := e.algorithm.digest text == e.digest.map Char.toLower
      if !task.isSilent then
        if !isSame then Tool.printLine (shown ++ ": FAILED".toList)
        else if !task.isQuiet then Tool.printLine (shown ++ ": OK".toList)
      return if isSame then { t with matched := true } else { t with different := t.different + 1 }

/-- Checks what the lines of a file say, and tells whether all is well. -/
def checkFile (task : Task) (name : Text) : Tool Bool := do
  let source := if name = ['-'] then "'standard input'".toList else quoteIfNeeded name
  match ← Feed.ofName name with
  | .error cause =>
    Tool.complain (source ++ ": ".toList ++ reason cause)
    return false
  | .ok feed =>
    let (t, feed) ← feed.foldLines {} fun t line => do return .yield (← checkLine task name t line)
    feed.close
    if feed.failure?.isSome then
      Tool.complain (source ++ ": read error".toList)
      return false
    if t.proper = 0 then
      Tool.complain (source ++ ": no properly formatted checksum lines found".toList)
      return false
    if !task.isSilent then
      if t.improper ≠ 0 then
        Tool.complain (counted t.improper " line is improperly formatted"
          " lines are improperly formatted")
      if t.unread ≠ 0 then
        Tool.complain (counted t.unread " listed file could not be read"
          " listed files could not be read")
      if t.different ≠ 0 then
        Tool.complain (counted t.different " computed checksum did NOT match"
          " computed checksums did NOT match")
      if task.ignoresMissing ∧ !t.matched then
        Tool.complain (source ++ ": no file was verified".toList)
    return t.matched && t.different == 0 && t.unread == 0 && !(task.isStrict && t.improper != 0)

/-! ### Printing -/

/-- Prints what is made of a file, and tells whether it could be read. -/
def printFile (task : Task) (isNamed : Bool) (name : Text) : Tool Bool := do
  match ← Tool.content name with
  | .error cause =>
    Tool.complain (quoteIfNeeded name ++ ": ".toList ++ reason cause)
    return false
  | .ok text =>
    let a := task.algorithm
    if a.isSum then
      Tool.print (a.sum text ++ (if isNamed then ' ' :: name else []) ++ [task.ends])
    else
      let escapes := task.ends == '\n' && isAwkward name
      let shown := shownName escapes name
      let front := if escapes then ['\\'] else []
      let digest := a.digest text
      let size := match a with
        | .blake bits => if bits < 512 then '-' :: Text.decimal bits else []
        | _ => []
      Tool.print (front ++ (if task.isTagged then
          a.name.toList ++ size ++ " (".toList ++ shown ++ ") = ".toList ++ digest
        else digest ++ ' ' :: (if task.isBinary then '*' else ' ') :: shown) ++ [task.ends])
    return true

def run (task : Task) (operands : List Text) : Tool Nat := do
  let names := inputNames operands
  let mut status := 0
  for name in names do
    let fine ← if task.checks then checkFile task name else printFile task (operands ≠ []) name
    if !fine then status := 1
  return status

/-! ### Options -/

def known (letters valued : String) (more : List (String × Char)) : Known :=
  { letters := "cwz" ++ letters, valued
    long := [("check", 'c'), ("ignore-missing", 'I'), ("quiet", 'Q'), ("status", 'S'), ("strict", 'X'),
      ("tag", 'T'), ("warn", 'w'), ("zero", 'z')] ++ more }

def lengthOf (t : Text) : Tool Nat := do
  let wrong {α : Type} : Tool α := Tool.refuse 1 ("invalid length: ".toList ++ quotePlainly t)
  match Text.natural? t with
  | none => wrong
  | some n =>
    if 512 < n then
      Tool.complain ("invalid length: ".toList ++ quotePlainly t)
      Tool.refuse 1 "maximum digest length for 'BLAKE2b' is 512 bits".toList
    if n % 8 ≠ 0 then
      Tool.complain ("invalid length: ".toList ++ quotePlainly t)
      Tool.refuse 1 "length is not a multiple of 8".toList
    return if n = 0 then 512 else n

def checkOptions (task : Task) (g : Given) : Tool Unit := do
  if task.checks then
    let meaningless (what : String) : Tool Unit :=
      Tool.misuse 1 ("the ".toList ++ what.toList ++ " when verifying checksums".toList)
    if g.has 'T' then meaningless "--tag option is meaningless"
    if task.ends = '\x00' then meaningless "--zero option is not supported"
    if g.has 'b' ∨ g.has 't' then meaningless "--binary and --text options are meaningless"
  else
    for (letter, name) in [('I', "ignore-missing"), ('S', "status"), ('w', "warn"), ('Q', "quiet"),
        ('X', "strict")] do
      if g.has letter then
        Tool.misuse 1 ("the --".toList ++ name.toList ++
          " option is meaningful only when verifying checksums".toList)

def taskOf (algorithm : Algorithm) (g : Given) : Task :=
  { algorithm, ends := if g.has 'z' then '\x00' else '\n', checks := g.has 'c'
    ignoresMissing := g.has 'I'
    isQuiet := g.options.reverse.find? (fun o => "QSw".toList.contains o.1) == some ('Q', [])
    isSilent := g.options.reverse.find? (fun o => "QSw".toList.contains o.1) == some ('S', [])
    warns := g.options.reverse.find? (fun o => "QSw".toList.contains o.1) == some ('w', [])
    isStrict := g.has 'X' }

end Checksum

namespace Utility

open Checksum

def digestFiles (algorithm : Algorithm) : Tool Nat := do
  let hasLength := algorithm matches .blake _
  let g ← (known "bt" (if hasLength then "l" else "")
    ([("binary", 'b'), ("text", 't')] ++ if hasLength then [("length", 'l')] else [])).given
  let mut algorithm := algorithm
  if let some t := g.value? 'l' then algorithm := .blake (← lengthOf t)
  let isBinary := g.options.foldl
    (fun b (c, _) => if c = 'b' ∨ c = 'T' then true else if c = 't' then false else b) false
  let task : Task := { taskOf algorithm g with isTagged := g.has 'T', isBinary }
  if task.isTagged ∧ !isBinary then Tool.misuse 1 "--tag does not support --text mode".toList
  checkOptions task g
  run task g.operands

/-- Prints sums of files, or digests of a kind that an option names. -/
def checkSums : Tool Nat := do
  let g ← (known "bt" "al" [("algorithm", 'a'), ("length", 'l'), ("untagged", 'U'), ("debug", 'D')]).given
  let mut algorithm := Algorithm.cyclic
  if let some t := g.value? 'a' then
    match Algorithm.names.find? fun (name, _) => name.toList == t with
    | some (_, _, a) => algorithm := a
    | none =>
      Tool.complain ("invalid argument ".toList ++ quotePlainly t ++ " for '--algorithm'".toList)
      Tool.tell "Valid arguments are:".toList
      for (name, _) in Algorithm.names do Tool.tell ("  - '".toList ++ name.toList ++ ['\''])
      Tool.tell "  - 'sm3'".toList
      Tool.tell ("Try '".toList ++ (← Tool.process).name ++ " --help' for more information.".toList)
      Tool.stop 1
  if let some t := g.value? 'l' then
    let n ← lengthOf t
    if !(algorithm matches .blake _) then
      Tool.refuse 1 "--length is only supported with --algorithm=blake2b".toList
    algorithm := .blake n
  let isTagged := (g.options.reverse.find? fun o => o.1 == 'T' || o.1 == 'U').all (·.1 == 'T')
  let isOpen := (g.value? 'a').isNone
  let task : Task := { taskOf algorithm g with isTagged, isOpen, isBinary := g.has 'T' && !isTagged }
  if task.checks ∧ !isOpen ∧ algorithm.isSum then
    Tool.refuse 1 "--check is not supported with --algorithm=\x7bbsd,sysv,crc\x7d".toList
  checkOptions task { g with options := g.options.filter fun o => o.1 != 'T' }
  run task g.operands

def sums : Tool Nat := do
  let g ← Known.given { letters := "rs", long := [("sysv", 's')] }
  let isPlain := (g.options.reverse.head?).any (·.1 == 's')
  run { algorithm := if isPlain then .plain else .turned } g.operands

end Utility
end LineShell
