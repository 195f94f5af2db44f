import LineShell.Host.Utility.Columns
import LineShell.Host.Utility.Directories
import LineShell.Host.Utility.Version
import LineShell.Host.Zone.Basic

/-! Listing directories. -/
namespace LineShell.Utility

structure Item where
  name : Text
  node : Node
  /-- What a link leads to, if that is asked for and there. -/
  target : Option Node := none

/-- A mark behind the name that tells what it names. -/
def markOf (files : FileSystem) : Node → Text
  | .directory .. => ['/']
  | .link _ | .handle .. => ['@']
  | .pipe .. => ['|']
  | node => if files.isRunnable node then ['*'] else []

def kindLetter : Node → Char
  | .directory .. => 'd'
  | .link _ | .handle .. => 'l'
  | .pipe .. => 'p'
  | .device _ => 'c'
  | _ => '-'

/-- The permissions of a node as letters, what it is in front. -/
def modeLetters (files : FileSystem) (node : Node) : Text :=
  kindLetter node :: Mode.flags (files.mode node)

/-- A day and a time as they are listed: for days long ago or to come the year takes the place of
the time. -/
def timeText (zone : Zone) (now time : Nat) : Text :=
  let m := zone.momentOf time
  let isRecent := time ≤ now && now < time + 15778476
  let clock := if isRecent then
      Calendar.twoDigits m.hour ++ ':' :: Calendar.twoDigits m.minute
    else Calendar.filled ' ' 5 m.year
  (Calendar.monthName m).take 3 ++ ' ' :: Calendar.filled ' ' 2 m.day ++ ' ' :: clock

structure Listing where
  given : Given
  files : FileSystem
  width : Nat := 80
  zone : Zone := .utc

namespace Listing

/-- The letter of these options that was given last. -/
def lastOf (l : Listing) (letters : String) : Option Char :=
  (l.given.options.reverse.find? fun (c, _) => letters.toList.contains c).map (·.1)

/-- Which of two items comes first, not regarding `r`. -/
def comesBefore (l : Listing) (a b : Item) : Bool :=
  let byName := !decide (b.name < a.name)
  let later (x y : Nat) : Bool := decide (y < x) || (x == y && byName)
  match l.lastOf "tSXv" with
  | some 't' => later (l.files.modified a.node) (l.files.modified b.node)
  | some 'S' => later (l.files.size a.node) (l.files.size b.node)
  | some 'v' =>
    match Version.compare a.name b.name with
    | .eq => byName
    | order => order == .lt
  | some 'X' =>
    let ending (t : Text) : Text :=
      if t.contains '.' then '.' :: (t.reverse.takeWhile (· != '.')).reverse else []
    let x := ending a.name
    let y := ending b.name
    decide (x < y) || (x == y && byName)
  | _ => byName

def ordered (l : Listing) (items : List Item) : List Item :=
  let g := l.given
  let sorted := if g.has 'f' ∨ g.has 'U' then items else items.mergeSort l.comesBefore
  let sorted := if g.has 'r' then sorted.reverse else sorted
  if g.has 'G' then
    let (front, rest) := sorted.partition fun i => (i.target.getD i.node).isDirectory
    front ++ rest
  else sorted

def shown (l : Listing) (name : Text) : Text :=
  match l.lastOf "QbqN" with
  | some 'Q' => quoteDoubly name
  | some 'b' => escapeName name
  | some 'q' => name.map fun c => if isPrintable c then c else '?'
  | _ => name

def mark (l : Listing) (node : Node) : Text :=
  let g := l.given
  if g.has 'F' then markOf l.files node
  else if g.has 'Y' then (markOf l.files node).filter (· != '*')
  else if g.has 'p' ∧ node.isDirectory then ['/'] else []

/-- How many blocks a node takes, in units of 1024 bytes. -/
def blocks (l : Listing) (node : Node) : Nat :=
  match node with
  | .directory .. => 4
  | .file _ => (l.files.size node + 4095) / 4096 * 4
  | _ => 0

def links (l : Listing) (node : Node) : Nat :=
  match node with
  | .directory _ children => 2 + (children.filter (·.2.isDirectory)).length
  | .file id => max 1 (l.files.linkCount id)
  | _ => 1

def sizeText (l : Listing) (n : Nat) : Text :=
  if !l.given.has 'h' ∨ n < 1024 then Text.decimal n
  else
    let (n, unit) := if n < 1024 * 1024 then (n, 'K') else (n / 1024, 'M')
    let tenths := (n * 10 + 1023) / 1024
    if tenths < 100 then Text.decimal (tenths / 10) ++ '.' :: Text.decimal (tenths % 10) ++ [unit]
    else Text.decimal ((n + 1023) / 1024) ++ [unit]

/-- The lines of items with all that is known about them. -/
def details (l : Listing) (items : List Item) : List Text :=
  let g := l.given
  let column (f : Item → Text) : List Text :=
    let texts := items.map f
    let width := (texts.map List.length).max?.getD 0
    texts.map fun t => List.replicate (width - t.length) ' ' ++ t
  let counts := column fun i => Text.decimal (l.links i.node)
  let sizes := column fun i => l.sizeText (l.files.size i.node)
  let owner := if g.has 'n' then ['0'] else "root".toList
  let owners := (if g.has 'g' then [] else ' ' :: owner) ++ (if g.has 'o' then [] else ' ' :: owner)
  let time (i : Item) : Text :=
    timeText l.zone (l.files.now / 1000000000) (l.files.modified i.node / 1000000000)
  List.zipWith (fun (count, size) i =>
    let target := match i.node with
      | .link path => " -> ".toList ++ l.shown path.octets
      | .handle _ path => " -> ".toList ++ l.shown path.octets
      | node => l.mark node
    modeLetters l.files i.node ++ ' ' :: count ++ owners ++ ' ' :: size ++ ' ' :: time i ++
      ' ' :: l.shown i.name ++ target) (counts.zip sizes) items

/-- Prints items in the form that the options ask for. -/
def print (l : Listing) (items : List Item) (inside : Bool) : Tool Unit := do
  let g := l.given
  let isLong := ['l', 'n', 'g', 'o'].any g.has
  let sum := sumOf (items.map fun i => l.blocks i.node)
  if inside ∧ (isLong ∨ g.has 's') then
    Tool.printLine ("total ".toList ++
      (if g.has 'h' then l.sizeText (sum * 1024) else Text.decimal sum))
  let front (i : Item) : Text :=
    (if g.has 'i' then Text.decimal (i.node.id?.getD 0 + 1000) ++ [' '] else []) ++
      (if g.has 's' then Text.decimal (l.blocks i.node) ++ [' '] else [])
  let names := items.map fun i => front i ++ l.shown i.name ++ l.mark i.node
  if isLong then
    for line in l.details items do Tool.printLine line
  else
    match l.lastOf "1Cxm" with
    | some 'm' => Tool.print (Columns.separated l.width names)
    | some 'C' => Tool.print (Columns.down l.width names)
    | some 'x' => Tool.print (Columns.across l.width names)
    | _ => for name in names do Tool.printLine name

/-- The items of a directory, as far as the options show them. -/
def itemsOf (l : Listing) (v : View) (location : Location) (children : List (Text × Node)) :
    List Item :=
  let g := l.given
  let item (name : Text) (node : Node) : Item :=
    let target := match v.files.open? location ⟨name⟩ with
      | .ok (_, node) => some node
      | .error _ => none
    { name, node := if g.has 'L' then target.getD node else node, target }
  let own := children.map fun (name, node) => item name node
  let node (location : Location) : Node := (v.files.root.at? location).getD (.directory 0 [])
  let around := [item ['.'] (node location), item ['.', '.'] (node location.parent)]
  let all := if g.has 'a' ∨ g.has 'f' then around ++ own
    else if g.has 'A' then own
    else own.filter fun i => i.name.head? != some '.'
  l.ordered (if g.has 'B' then all.filter fun i => i.name.getLast? != some '~' else all)

end Listing

/-- Lists the names in a directory, and with `R` those in its directories. -/
def listDirectory (l : Listing) (titled : Bool) : Nat → Bool → Bool → Text → Location → Tool Unit
  | 0, _, _, _, _ => return ()
  | n + 1, isFirst, isOperand, title, location => do
    let v ← Tool.view
    match v.files.node? location with
    | some node =>
      if !v.files.mayRead node then
        Tool.blame (if isOperand then 2 else 1)
          ("cannot open directory ".toList ++ quote title ++ ": Permission denied".toList)
      else
        if titled then
          if !isFirst then Tool.print ['\n']
          Tool.printLine (title ++ [':'])
        let items := l.itemsOf v location node.children
        l.print items true
        if l.given.has 'R' then
          for i in items do
            if i.node.isDirectory ∧ i.name ≠ ['.'] ∧ i.name ≠ ['.', '.'] then
              listDirectory l titled n false false (Path.within title i.name)
                (location ++ [i.name])
    | none => return ()

def listLimit : Nat := 1000

def listOptions : Known where
  letters := "1aAdFrRfUptSXvlngohLHiscuCxmQbqNBGYk"
  valued := "wIT"
  status := 2
  long :=
    [("all", 'a'), ("almost-all", 'A'), ("directory", 'd'), ("classify", 'F'),
      ("reverse", 'r'), ("recursive", 'R'), ("size", 's'), ("inode", 'i'),
      ("human-readable", 'h'), ("dereference", 'L'), ("numeric-uid-gid", 'n'),
      ("no-group", 'o'), ("quote-name", 'Q'), ("escape", 'b'), ("literal", 'N'),
      ("hide-control-chars", 'q'), ("ignore-backups", 'B'), ("width", 'w'), ("file-type", 'Y'),
      ("group-directories-first", 'G'), ("ignore", 'I'), ("tabsize", 'T')]

def list : Tool Nat := do
  let g ← listOptions.given
  let v ← Tool.view
  let columns := (((← Tool.process).value? "COLUMNS".toList).bind Text.natural?).getD 80
  let width := ((g.value? 'w').bind Text.natural?).getD columns
  let l : Listing := { given := g, files := v.files, width, zone := ← Tool.zone }
  let names := if g.operands = [] then [['.']] else g.operands
  let keepsLinks := ['d', 'F', 'l', 'n', 'g', 'o'].any g.has && !g.has 'L' && !g.has 'H'
  let mut files : List Item := []
  let mut directories : List (Item × Location) := []
  for name in names do
    let entry ← entryAt name
    let isPlainLink : Bool := match entry with
      | .ok ⟨_, some node⟩ => node.isLink && name == withoutEndSlashes name
      | _ => false
    match v.find name, entry with
    | .error cause, .ok ⟨_, some node⟩ =>
      if name = withoutEndSlashes name then files := files ++ [{ name, node := node }]
      else Tool.blame 2 ("cannot access ".toList ++ quote name ++ ": ".toList ++ reason cause)
    | .error cause, _ =>
      Tool.blame 2 ("cannot access ".toList ++ quote name ++ ": ".toList ++ reason cause)
    | .ok (location, node), entry =>
      if isPlainLink ∧ keepsLinks then
        let link := (entry.toOption.bind Entry.node).getD node
        files := files ++ [{ name, node := link, target := some node }]
      else if node.isDirectory ∧ !g.has 'd' then
        directories := directories ++ [({ name, node := node }, location)]
      else files := files ++ [{ name, node := node }]
  if files ≠ [] then l.print (l.ordered files) false
  let titled := 1 < names.length || g.has 'R'
  let sorted := l.ordered (directories.map (·.1))
  for (item, i) in sorted.zipIdx do
    match directories.find? (·.1.name == item.name) with
    | some (_, location) =>
      if i = 0 ∧ files ≠ [] then Tool.print ['\n']
      listDirectory l titled listLimit (i = 0) true item.name location
    | none => pure ()
  return 0

end LineShell.Utility
