import LineShell.Host.Utility.Attributes
import LineShell.Host.Utility.Comparing.Bytes
import LineShell.Host.Utility.Comparing.Notation
import LineShell.Host.Utility.Removal

/-!
`diff`: the changes that lead from one file to another, or from the files of one directory to those
of another.
-/
namespace LineShell.Comparing

open LineShell.Alignment Utility

/-- What is compared, and what is told. -/
structure Order where
  appearance : Appearance := {}
  ignoring : Ignoring := {}
  /-- No line is left out of the search for changes. -/
  minimal : Bool := false
  /-- How many lines that are the same are looked at next to the others. -/
  horizon : Nat := 0
  /-- Everything is taken for lines of text. -/
  asText : Bool := false
  /-- Returns at the ends of lines do not count. -/
  stripsReturns : Bool := false
  /-- It is told that files differ, or that they are the same, and no more. -/
  isBrief : Bool := false
  tellsSame : Bool := false
  recursive : Bool := false
  /-- A file that is not there is an empty one: either of the two, or the first. -/
  fillsIn : Bool := false
  fillsInFirst : Bool := false
  keepsLinks : Bool := false
  labels : List Text := []
  /-- Names that are left out. -/
  excluded : List Text := []
  /-- The name to begin with in directories. -/
  starting : Option Text := none
  /-- The options as they were given. -/
  switches : Text := []
  zone : Zone

inductive Subject
  | absent
  | input
  | node (location : Location) (n : Node)

namespace Subject

def node? : Subject → Option Node
  | .node _ n => some n
  | _ => none

def isDirectory (s : Subject) : Bool := s.node?.any Node.isDirectory

def isThere : Subject → Bool
  | .absent => false
  | _ => true

def isSame : Subject → Subject → Bool
  | .input, .input => true
  | .node here a, .node there b => here == there || (a.id?.isSome && a.id? == b.id?)
  | _, _ => false

end Subject

/-- Whether no output means that there is no difference. -/
def Order.isSilent (o : Order) : Bool :=
  match o.appearance.style with
  | .columns => o.appearance.changesOnly
  | .merged _ => false
  | _ => true

def headName (name : Text) : Text :=
  let isPlain := name.all fun c => c != '"' && c != '\\' && isPrintable c && c != ' '
  if isPlain ∧ name ≠ [] then name else quoteDoubly name

/-- What is known about two texts for the lines in front of their changes. -/
structure Heading where
  mark : Text
  name : Text
  label : Option Text
  time : Int

def Heading.line (h : Heading) (o : Order) : Text :=
  match h.label with
  | some label => (h.mark ++ ' ' :: label).line
  | none =>
    let format := if o.appearance.style = .context then "%a %b %e %T %Y" else "%Y-%m-%d %H:%M:%S.%N %z"
    (h.mark ++ ' ' :: headName h.name ++ '\t' :: DateText.format o.zone h.time format.toList).line

def timeOf (s : Subject) : Tool Int := do
  let files := (← Tool.view).files
  return match s with
    | .absent => 0
    | .input => files.now
    | .node _ n => files.modified n

/-- Compares two texts and prints the changes; gives the status. -/
def compareTexts (o : Order) (isInside : Bool) (names : Text × Text) (subjects : Subject × Subject)
    (texts : Text × Text) : Tool Nat := do
  let label (i : Nat) (name : Text) : Text := o.labels.getD i name
  let told (front : String) : Tool Unit :=
    Tool.printLine (front.toList ++ label 0 names.1 ++ " and ".toList ++ label 1 names.2 ++ " differ".toList)
  let isBinary (t : Text) : Bool := (t.take 4096).contains '\x00'
  if !o.asText ∧ (isBinary texts.1 ∨ isBinary texts.2) then
    if texts.1 = texts.2 then return 0
    told (if o.isBrief then "Files " else "Binary files ")
    return if o.isBrief then 1 else 2
  let strip (t : Text) : Text :=
    if !o.stripsReturns then t
    else (linesOf t).flatMap fun l =>
      let b := bare l
      if b.getLast? = some '\r' ∧ l ≠ b then Text.line b.dropLast else l
  let (first, second) := (strip texts.1, strip texts.2)
  let a := o.appearance
  let isExact := a.style.isExact
  let p := Pair.ofTexts (!isExact) first second
  let changes := if first = second then [] else
    p.changes o.ignoring (max o.horizon a.context) o.minimal
  let counted := changes.filter fun c => !p.isPassedOver o.ignoring c
  if o.isBrief then
    if counted = [] then return 0
    told "Files "
    return 1
  let body := if changes = [] ∧ o.isSilent then [] else a.write o.ignoring p changes
  if body ≠ [] then
    if isInside then
      Tool.printLine ("diff".toList ++ o.switches ++ ' ' :: headName names.1 ++ ' ' :: headName names.2)
    if a.style = .unified ∨ a.style = .context then
      let (old, new) := if a.style = .unified then ("---", "+++") else ("***", "---")
      let one : Heading :=
        { mark := old.toList, name := names.1, label := o.labels[0]?, time := ← timeOf subjects.1 }
      let two : Heading :=
        { mark := new.toList, name := names.2, label := o.labels[1]?, time := ← timeOf subjects.2 }
      Tool.print (one.line o ++ two.line o)
    Tool.print body
  let mut status := if counted = [] then 0 else 1
  if !isExact ∧ first ≠ second then
    for (t, i, name) in [(first, 0, names.1), (second, 1, names.2)] do
      if t ≠ [] ∧ t.getLast? ≠ some '\n' then
        Tool.complain (label i name ++ ": No newline at end of file\n".toList)
        status := 2
  return status

def blameFile (name : Text) (cause : IoError) : Tool Nat := do
  Tool.complain (name ++ ": ".toList ++ reason cause)
  return 2

def subjectOf (o : Order) (name : Text) : Tool (Except IoError Subject) := do
  if name = ['-'] then return .ok .input
  let v ← Tool.view
  if o.keepsLinks then
    match v.entry name with
    | .ok (.found location node) => return .ok (.node location node)
    | .ok (.vacant _) => return .error (.os .noEntry)
    | .error cause => return .error cause
  else
    match v.find name with
    | .ok (location, node) => return .ok (.node location node)
    | .error cause => return .error cause

def namesOf (o : Order) (name : Text) (isFirst : Bool) : Subject → Tool (Except Nat (List Text))
  | .node location _ => do
    let v ← Tool.view
    match v.files.root.at? location with
    | some (.directory id children) =>
      if !v.files.mayRead (.directory id children) then
        return .error (← blameFile name (.os .accessDenied))
      let names := (children.map (·.1)).filter fun n => !o.excluded.any (Script.Pattern.fits · n)
      let names := match if isFirst then o.starting else none with
        | some start => names.filter (Text.isAtMost start)
        | none => names
      return .ok (names.mergeSort Text.isAtMost)
    | _ => return .error (← blameFile name (.os .noEntry))
  | _ => return .ok []

/-- Puts the names of two directories together: which of them has each. -/
def paired : Nat → List Text → List Text → List (Text × Bool × Bool)
  | 0, _, _ => []
  | _ + 1, [], names => names.map (·, false, true)
  | _ + 1, names, [] => names.map (·, true, false)
  | fuel + 1, a :: as, b :: bs =>
    if a = b then (a, true, true) :: paired fuel as bs
    else if Text.isAtMost a b then (a, true, false) :: paired fuel as (b :: bs)
    else (b, false, true) :: paired fuel (a :: as) bs

/-- How two files are compared that have been found in directories of these names; the flags tell
which of them is there. -/
abbrev Visit := Text × Text → Text → Bool × Bool → Tool Nat

def compareInside (o : Order) (visit : Visit) (isFirst : Bool) (names : Text × Text)
    (subjects : Subject × Subject) : Tool Nat := do
  match ← namesOf o names.1 isFirst subjects.1, ← namesOf o names.2 isFirst subjects.2 with
  | .ok here, .ok there =>
    let mut status := 0
    for (name, isHere, isThere) in paired (here.length + there.length + 1) here there do
      status := max status (← visit names name (isHere, isThere))
    return status
  | _, _ => return 2

def onlyIn (directory name : Text) : Tool Nat := do
  Tool.printLine ("Only in ".toList ++ directory ++ ": ".toList ++ name)
  return 1

/-- Whether files in directories are compared by what they hold. -/
def isPlain (s : Subject) : Bool := s.node?.all fun n => n.isFile || n.isLink

def compareContents (o : Order) (isInside : Bool) (names : Text × Text) (subjects : Subject × Subject) :
    Tool Nat := do
  let (one, two) := subjects
  match one.node?, two.node? with
  | some (.link a), some (.link b) =>
    if a.octets = b.octets then return 0
    Tool.printLine ("Symbolic links ".toList ++ names.1 ++ " and ".toList ++ names.2 ++
      " differ".toList)
    return 1
  | _, _ =>
    let read (s : Subject) (name : Text) : Tool (Except IoError Text) :=
      if s.isThere then Tool.content name else return .ok []
    let first ← read one names.1
    let second ← if one.isSame two then pure first else read two names.2
    match first, second with
    | .ok first, .ok second => compareTexts o isInside names subjects (first, second)
    | .error cause, .ok _ => blameFile names.1 cause
    | .ok _, .error cause => blameFile names.2 cause
    | .error cause, .error cause' =>
      let _ ← blameFile names.1 cause
      blameFile names.2 cause'

def compareSubjects (o : Order) (visit : Visit) (parents : Option (Text × Text)) (names : Text × Text)
    (subjects : Subject × Subject) : Tool Nat := do
  let (one, two) := subjects
  if one.isSame two ∧ o.isSilent then return 0
  if one.isDirectory ∧ two.isDirectory then
    if parents.isSome ∧ !o.recursive then
      Tool.printLine ("Common subdirectories: ".toList ++ names.1 ++ " and ".toList ++ names.2)
      return 0
    if o.appearance.style matches .merged _ then
      Tool.refuse 2 "-D option not supported with directories".toList
    return ← compareInside o visit parents.isNone names subjects
  if one.isDirectory ∨ two.isDirectory ∨ (parents.isSome ∧ !(isPlain one && isPlain two)) then
    if !one.isThere ∨ !two.isThere then
      if o.recursive ∧ (one.isDirectory ∨ two.isDirectory) then
        return ← compareInside o visit false names subjects
      let (directories, name) := (parents.getD names, lastName names.1)
      return ← onlyIn (if one.isThere then directories.1 else directories.2) name
    let files := (← Tool.view).files
    let kind (s : Subject) : Text := ((s.node?.map (kindName files)).getD "fifo").toList
    let label (i : Nat) (name : Text) : Text := o.labels.getD i name
    Tool.printLine ("File ".toList ++ label 0 names.1 ++ " is a ".toList ++ kind one ++
      " while file ".toList ++ label 1 names.2 ++ " is a ".toList ++ kind two)
    return 1
  compareContents o parents.isSome names subjects

/-- Compares what has been found, and tells if it is the same and that is to be told. -/
def judge (o : Order) (visit : Visit) (parents : Option (Text × Text)) (names : Text × Text)
    (subjects : Subject × Subject) : Tool Nat := do
  let status ← compareSubjects o visit parents names subjects
  if status = 0 ∧ o.tellsSame ∧ !subjects.1.isDirectory then
    let label (i : Nat) (name : Text) : Text := o.labels.getD i name
    Tool.printLine ("Files ".toList ++ label 0 names.1 ++ " and ".toList ++ label 1 names.2 ++
      " are identical".toList)
  return status

/-- Compares two files. `parents` are the directories that they are in, if they have been found
there; the flags tell which of the files is there then. -/
def compare (o : Order) : Nat → Option (Text × Text) → Text × Text → Bool × Bool → Tool Nat
  | 0, _, _, _ => return 2
  | fuel + 1, parents, names, there => do
    if let some (here, there') := parents then
      if !there.1 ∧ !o.fillsIn ∧ !o.fillsInFirst then return ← onlyIn there' names.2
      if !there.2 ∧ !o.fillsIn then return ← onlyIn here names.1
    let visit : Visit := fun directories name there =>
      compare o fuel (some directories) (name, name) there
    let names := match parents with
      | some (here, there) => (Path.within here names.1, Path.within there names.2)
      | none => names
    let look (isThere : Bool) (name : Text) : Tool (Except IoError Subject) :=
      if isThere then subjectOf o name else return .ok .absent
    let one ← look there.1 names.1
    let two ← look there.2 names.2
    let fill (mayFill : Bool) (s other : Except IoError Subject) : Except IoError Subject :=
      match s, other with
      | .error (.os .noEntry), .ok _ => if mayFill && parents.isNone then .ok .absent else s
      | _, _ => s
    match fill (o.fillsIn || o.fillsInFirst) one two, fill o.fillsIn two one with
    | .error cause, .error cause' =>
      let _ ← blameFile names.1 cause
      blameFile names.2 cause'
    | .error cause, .ok _ => blameFile names.1 cause
    | .ok _, .error cause => blameFile names.2 cause
    | .ok one, .ok two =>
      let isMixed := parents.isNone && one.isThere && two.isThere && one.isDirectory != two.isDirectory
      if !isMixed then return ← judge o visit parents names (one, two)
      let file := if one.isDirectory then names.2 else names.1
      if file = ['-'] then Tool.refuse 2 "cannot compare '-' to a directory".toList
      let inner := Path.within (if one.isDirectory then names.1 else names.2) (lastName file)
      match ← subjectOf o inner with
      | .error cause => blameFile inner cause
      | .ok new =>
        if one.isDirectory then judge o visit parents (inner, names.2) (new, two)
        else judge o visit parents (names.1, inner) (one, new)

/-! ### Options -/

/-- The options. Those that have no letter have one here that is no byte. -/
def options : Known :=
  { letters := "abBcdeEfHilnNpPqrstTuwyZ", valued := "CDFILSUWxXγδεσ", loose := "ακμ", status := 2
    counted := some 'ψ'
    manual := ["\x00: Try '\x00 --help' for more information."]
    long := [("text", 'a'), ("ignore-space-change", 'b'), ("ignore-blank-lines", 'B'), ("context", 'κ'),
      ("ifdef", 'D'), ("minimal", 'd'), ("ed", 'e'), ("ignore-tab-expansion", 'E'), ("forward-ed", 'f'),
      ("show-function-line", 'F'), ("speed-large-files", 'H'), ("ignore-matching-lines", 'I'),
      ("ignore-case", 'i'), ("paginate", 'l'), ("label", 'L'), ("new-file", 'N'), ("rcs", 'n'),
      ("unidirectional-new-file", 'P'), ("show-c-function", 'p'), ("brief", 'q'), ("recursive", 'r'),
      ("starting-file", 'S'), ("report-identical-files", 's'), ("initial-tab", 'T'),
      ("expand-tabs", 't'), ("unified", 'μ'), ("ignore-all-space", 'w'), ("width", 'W'),
      ("exclude", 'x'), ("exclude-from", 'X'), ("side-by-side", 'y'), ("ignore-trailing-space", 'Z'),
      ("color", 'α'), ("binary", 'β'), ("from-file", 'γ'), ("to-file", 'δ'), ("horizon-lines", 'ε'),
      ("ignore-file-name-case", 'ζ'), ("inhibit-hunk-merge", 'η'), ("left-column", 'θ'),
      ("no-dereference", 'λ'), ("normal", 'ν'), ("strip-trailing-cr", 'ξ'),
      ("suppress-blank-empty", 'π'), ("suppress-common-lines", 'ρ'), ("tabsize", 'σ'),
      ("no-ignore-file-name-case", 'τ')] }

structure Wishes where
  order : Order
  style : Option Style := none
  context : Option Nat := none
  /-- The number of lines around has been said. -/
  isExplicit : Bool := false
  /-- A number that is an option of its own. -/
  bareContext : Option Nat := none
  heads : Bool := false
  from' : Option Text := none
  upTo : Option Text := none

namespace Wishes

def ask (w : Wishes) (style : Style) : Tool Wishes := do
  if w.style.any (· ≠ style) then misuse "conflicting output style options".toList
  return { w with style := some style }

def around (w : Wishes) (style : Style) (value : Option Text) : Tool Wishes := do
  let n ← match value with
    | none => pure 3
    | some t =>
      match Amount.read 10 "" t with
      | .ok n => pure n
      | .error .excessive => pure Amount.limit
      | .error _ => misuse ("invalid context length ".toList ++ quotePlainly t)
  let w ← w.ask style
  return { w with
    context := some (max n (w.context.getD 0)), isExplicit := w.isExplicit || value.isSome }

def ignore (w : Wishes) (spaces : Spaces) : Wishes :=
  { w with order := { w.order with
      ignoring := { w.order.ignoring with spaces := w.order.ignoring.spaces.also spaces } } }

/-- A number that has to be above zero, or not below. -/
def number (least : Nat) (what : String) (t : Text) : Tool Nat := do
  match Amount.read 10 "" t with
  | .ok n => if least ≤ n then return n else misuse (("invalid " ++ what ++ " ").toList ++ quotePlainly t)
  | .error _ => misuse (("invalid " ++ what ++ " ").toList ++ quotePlainly t)

def expression (t : Text) : Tool Regex := do
  match ({} : Regex.Dialect).read t with
  | .ok (r, _) => return r
  | .error fault => Tool.refuse 2 (t ++ ": ".toList ++ fault.message)

def take (w : Wishes) (letter : Char) (value : Text) : Tool Wishes := do
  let o := w.order
  let a := o.appearance
  let i := o.ignoring
  let ordered (o : Order) : Tool Wishes := return { w with order := o }
  let shown (a : Appearance) : Tool Wishes := ordered { o with appearance := a }
  let ignoring (i : Ignoring) : Tool Wishes := ordered { o with ignoring := i }
  let given : Option Text := if value = [] then none else some value
  match letter with
  | 'a' => ordered { o with asText := true }
  | 'b' => return w.ignore .amount
  | 'E' => return w.ignore .tabs
  | 'Z' => return w.ignore .trailing
  | 'w' => return w.ignore .all
  | 'B' => ignoring { i with blankLines := true }
  | 'i' => ignoring { i with anyCase := true }
  | 'I' => ignoring { i with patterns := i.patterns ++ [← expression value] }
  | 'c' => w.around .context none
  | 'κ' => w.around .context given
  | 'C' => w.around .context (some value)
  | 'u' => w.around .unified none
  | 'μ' => w.around .unified given
  | 'U' => w.around .unified (some value)
  | 'ψ' => return { w with bareContext := Text.natural? (value.takeWhile Char.isDigit) }
  | 'd' => ordered { o with minimal := true }
  | 'D' => w.ask (.merged value)
  | 'e' => w.ask .commands
  | 'f' => w.ask .forward
  | 'n' => w.ask .counted
  | 'y' => w.ask .columns
  | 'ν' => w.ask .plain
  | 'F' => return { w with order := { o with appearance := { a with heading := some (← expression value) } } }
  | 'p' =>
    let heading := some (← expression "^[[:alpha:]$_]".toList)
    return { w with heads := true, order := { o with appearance := { a with heading } } }
  | 'L' =>
    if o.labels.length = 2 then Tool.refuse 2 "too many file label options".toList
    ordered { o with labels := o.labels ++ [value] }
  | 'N' => ordered { o with fillsIn := true }
  | 'P' => ordered { o with fillsInFirst := true }
  | 'q' => ordered { o with isBrief := true }
  | 'r' => ordered { o with recursive := true }
  | 's' => ordered { o with tellsSame := true }
  | 'S' => ordered { o with starting := some value }
  | 't' => shown { a with expands := true }
  | 'T' => shown { a with indents := true }
  | 'W' => shown { a with width := ← number 1 "width" value }
  | 'σ' => shown { a with tabSize := ← number 1 "tabsize" value }
  | 'θ' => shown { a with leftOnly := true }
  | 'ρ' => shown { a with changesOnly := true }
  | 'π' => shown { a with trimsBlank := true }
  | 'x' => ordered { o with excluded := o.excluded ++ [value] }
  | 'X' =>
    match ← Tool.content value with
    | .ok t => ordered { o with excluded := o.excluded ++ ((linesOf t).map bare).filter (· ≠ []) }
    | .error cause => Tool.refuse 2 (value ++ ": ".toList ++ reason cause)
  | 'ε' => ordered { o with horizon := max o.horizon (← number 0 "horizon length" value) }
  | 'ξ' => ordered { o with stripsReturns := true }
  | 'λ' => ordered { o with keepsLinks := true }
  | 'γ' => return { w with from' := some value }
  | 'δ' => return { w with upTo := some value }
  | 'α' =>
    if value ≠ [] ∧ ! ["never", "auto", "always"].any (·.toList == value) then
      misuse ("invalid color ".toList ++ quotePlainly value)
    return w
  | _ => return w

def finished (w : Wishes) : Tool Order := do
  let style := w.style.getD (if w.heads then .context else .plain)
  let isAround := style == .context || style == .unified
  let context := w.context.getD (if w.style.isNone ∧ w.heads then 3 else 0)
  let context := match w.bareContext with
    | some n =>
      if isAround ∧ (context < n ∨ !w.isExplicit) then n else context
    | none => context
  let o := w.order
  let ignoring := { o.ignoring with tabSize := o.appearance.tabSize }
  return { o with ignoring, appearance := { o.appearance with style, context } }

end Wishes

def switchesOf (arguments operands : List Text) : List Text :=
  let rec go : List Text → List Text → List Text
    | [], _ => []
    | arguments, [] => arguments
    | a :: as, b :: bs => if a = b then go as bs else a :: go as (b :: bs)
  (go arguments.reverse operands.reverse).reverse

end Comparing

namespace Utility

open Comparing

/-- Prints the changes that lead from one file to another. -/
def printChanges : Tool Nat := do
  let arguments ← Tool.arguments
  let g ← options.given
  let mut w : Wishes := { order := { zone := ← Tool.zone } }
  for (letter, value) in g.options do w ← w.take letter value
  let switches := (switchesOf arguments g.operands).flatMap fun t => ' ' :: quoteIfNeeded t
  let o := { ← w.finished with switches }
  let both (names : Text × Text) : Tool Nat := Comparing.compare o depthLimit none names (true, true)
  match w.from', w.upTo with
  | some _, some _ => Tool.refuse 2 "--from-file and --to-file both specified".toList
  | some name, none =>
    let mut status := 0
    for t in g.operands do status := max status (← both (name, t))
    return status
  | none, some name =>
    let mut status := 0
    for t in g.operands do status := max status (← both (t, name))
    return status
  | none, none =>
    match g.operands with
    | [first, second] => both (first, second)
    | _ :: _ :: extra :: _ => misuse ("extra operand ".toList ++ quotePlainly extra)
    | _ =>
      let last := arguments.getLast?.getD (← Tool.process).name
      misuse ("missing operand after ".toList ++ quotePlainly last)

end Utility
end LineShell
