import LineShell.Host.Accounts
import LineShell.Host.Utility.Directories

/-! Who and what there is: users, the system, and the terminal. -/
namespace LineShell.Utility

def allowOperands (status most : Nat) (g : Given) : Tool Unit := do
  match g.operands.drop most with
  | [] => return ()
  | extra :: _ => Tool.misuse status ("extra operand ".toList ++ quotePlainly extra)

/-- The options of a program that takes no operands. -/
def withoutOperands (k : Known) : Tool Given := do
  let g ← k.given
  allowOperands k.status 0 g
  return g

/-- The number of the user that everything belongs to. -/
def ownNumber : Nat := 0

/-- The user that an operand names, by name or by number. -/
def accountOf? (v : View) (operand : Text) : Option Account :=
  let digits := if operand.head? = some '+' then operand.tail else operand
  match if operand.head? = some '+' then none else v.accounts.find? (·.name == operand) with
  | some account => some account
  | none => (Text.natural? digits).bind fun n => v.accounts.find? (·.number == n)

def ownAccount (v : View) : Account :=
  (v.accounts.find? (·.number == ownNumber)).getD { name := [], number := ownNumber, group := 0 }

/-- Prints the numbers and names of a user and of the groups that the user is in. -/
def identify : Tool Nat := do
  let g ← Known.given
    { letters := "agnruGzZ"
      long := [("context", 'Z'), ("group", 'g'), ("groups", 'G'), ("name", 'n'), ("real", 'r'),
        ("user", 'u'), ("zero", 'z')] }
  if g.has 'Z' then
    Tool.refuse 1 "--context (-Z) works only on an SELinux-enabled kernel".toList
  let chosen := ['u', 'g', 'G'].filter g.has
  if 1 < chosen.length then
    Tool.refuse 1 "cannot print \"only\" of more than one choice".toList
  if chosen = [] ∧ (g.has 'n' ∨ g.has 'r') then
    Tool.refuse 1 "cannot print only names or real IDs in default format".toList
  if chosen = [] ∧ g.has 'z' then
    Tool.refuse 1 "option --zero not permitted in default format".toList
  let v ← Tool.view
  let mark : Text := if g.has 'z' then ['\x00'] else ['\n']
  let user (n : Nat) : Text := if g.has 'n' then v.userName n else Text.decimal n
  let group (n : Nat) : Text := if g.has 'n' then v.groupName n else Text.decimal n
  let labelled (n : Nat) (name : Text) : Text :=
    Text.decimal n ++ if name = Text.decimal n then [] else '(' :: name ++ [')']
  let several := 1 < g.operands.length
  let show1 (a : Account) : Text := match chosen with
    | ['u'] => user a.number ++ mark
    | ['g'] => group a.group ++ mark
    | ['G'] =>
      Text.joined (if g.has 'z' then ['\x00'] else [' ']) ((v.groupsOf a).map group) ++ mark ++
        if several ∧ g.has 'z' then mark else []
    | _ =>
      "uid=".toList ++ labelled a.number (v.userName a.number) ++ " gid=".toList ++
        labelled a.group (v.groupName a.group) ++ " groups=".toList ++
        Text.joined [','] ((v.groupsOf a).map fun n => labelled n (v.groupName n)) ++ mark
  if g.operands = [] then Tool.print (show1 (ownAccount v))
  for operand in g.operands do
    match accountOf? v operand with
    | some a => Tool.print (show1 a)
    | none =>
      Tool.flush
      Tool.blame 1 (quotePlainly operand ++ ": no such user".toList)
  return 0

def nameUser : Tool Nat := do
  let _ ← withoutOperands {}
  let v ← Tool.view
  Tool.printLine (v.userName ownNumber)
  return 0

def nameGroups : Tool Nat := do
  let g ← Known.given {}
  let v ← Tool.view
  let groups (a : Account) : Text := Text.joined [' '] ((v.groupsOf a).map v.groupName)
  if g.operands = [] then Tool.printLine (groups (ownAccount v))
  for operand in g.operands do
    match accountOf? v operand with
    | some a => Tool.printLine (operand ++ " : ".toList ++ groups a)
    | none =>
      Tool.flush
      Tool.blame 1 (quotePlainly operand ++ ": no such user".toList)
  return 0

/-- Nobody has logged in, so there is no name for that. -/
def nameLogin : Tool Nat := do
  let _ ← withoutOperands {}
  Tool.refuse 1 "no login name".toList

def nameUsers : Tool Nat := do
  let g ← Known.given {}
  allowOperands 1 1 g
  return 0

/-- Says that the input is no terminal, or prints which one it is. -/
def nameTerminal : Tool Nat := do
  let g ← withoutOperands
    { letters := "s", long := [("silent", 's'), ("quiet", 's')], status := 2 }
  let isTerminal ← Tool.hasTerminal
  if !g.has 's' then
    Tool.printLine (if isTerminal then "/dev/pts/0" else "not a tty").toList
  return if isTerminal then 0 else 1

/-- What a system says of itself, by the letters of options. -/
def systemFacts : List (Char × String) :=
  [('s', "Linux"), ('n', "localhost"), ('r', "6.1.0"), ('v', "#1 SMP PREEMPT_DYNAMIC"),
    ('m', "x86_64"), ('p', "unknown"), ('i', "unknown"), ('o', "GNU/Linux")]

def nameSystem : Tool Nat := do
  let g ← withoutOperands
    { letters := "asnrvmpio"
      long := [("all", 'a'), ("kernel-name", 's'), ("sysname", 's'), ("nodename", 'n'),
        ("kernel-release", 'r'), ("release", 'r'), ("kernel-version", 'v'), ("machine", 'm'),
        ("processor", 'p'), ("hardware-platform", 'i'), ("operating-system", 'o')] }
  let wanted (letter : Char) (fact : String) : Bool :=
    g.has letter || (g.has 'a' && fact != "unknown") || (g.options = [] && letter == 's')
  let facts := systemFacts.filter fun (letter, fact) => wanted letter fact
  Tool.printLine (Text.joined [' '] (facts.map fun (_, fact) => fact.toList))
  return 0

def nameMachine : Tool Nat := do
  let _ ← withoutOperands {}
  Tool.printLine "x86_64".toList
  return 0

def processors : Nat := 4

/-- Prints how many processors may be used. Variables can say how many threads there are to be. -/
def countProcessors : Tool Nat := do
  let g ← withoutOperands { valued := "i", letters := "a", long := [("all", 'a'), ("ignore", 'i')] }
  let ignored ← match g.value? 'i' with
    | none => pure 0
    | some t =>
      match Text.natural? t with
      | some n => pure n
      | none => Tool.refuse 1 ("invalid number: ".toList ++ quotePlainly t)
  let p ← Tool.process
  let number? (name : String) : Option Nat :=
    ((p.value? name.toList).bind fun t => Text.natural? (t.takeWhile (· != ','))).filter (0 < ·)
  let least := (number? "OMP_THREAD_LIMIT").getD (Nat.pow 2 63)
  let n := if g.has 'a' then processors
    else min ((number? "OMP_NUM_THREADS").getD processors) least
  Tool.printLine (Text.decimal (max 1 (n - ignored)))
  return 0

/-! ### Single calls -/

def unlinkFile : Tool Nat := do
  let g ← Known.givenOperands {}
  allowOperands 1 1 g
  let name := g.operands.headD []
  let cause ← match ← entryAt name with
    | .error cause => pure (some cause)
    | .ok ⟨_, none⟩ => pure (some (.os .noEntry))
    | .ok ⟨location, some node⟩ =>
      if node.isDirectory then pure (some (.os .isDirectory))
      else if name ≠ withoutEndSlashes name then pure (some (.os .notDirectory))
      else takeAway location
  let _ ← blameFor "cannot unlink".toList name cause
  return 0

def linkFile : Tool Nat := do
  let g ← Known.givenOperands {}
  match g.operands with
  | [one] => Tool.misuse 1 ("missing operand after ".toList ++ quotePlainly one)
  | old :: new :: _ =>
    allowOperands 1 2 g
    let failed (cause : IoError) : Tool Nat :=
      Tool.refuse 1 ("cannot create link ".toList ++ quote new ++ " to ".toList ++ quote old ++
        ": ".toList ++ reason cause)
    match ← entryAt old, ← entryAt new with
    | .error cause, _ | _, .error cause => failed cause
    | .ok ⟨_, none⟩, _ => failed (.os .noEntry)
    | .ok ⟨_, some _⟩, .ok ⟨_, some _⟩ => failed (.os .fileExists)
    | .ok ⟨_, some node⟩, .ok ⟨location, none⟩ =>
      if node.isDirectory then failed (.os .notPermitted)
      else
        match ← place location node with
        | some cause => failed cause
        | none => return 0
  | [] => return 0

/-- Waits until everything is stored, which it always is. -/
def synchronize : Tool Nat := do
  let g ← Known.given { letters := "df", long := [("data", 'd'), ("file-system", 'f')] }
  if g.has 'd' ∧ g.has 'f' then
    Tool.refuse 1 "cannot specify both --data and --file-system".toList
  if g.has 'd' ∧ g.operands = [] then Tool.refuse 1 "--data needs at least one argument".toList
  let v ← Tool.view
  for name in g.operands do
    match v.find name with
    | .ok (_, node) =>
      if !v.files.mayRead node ∧ !v.files.mayWrite node then
        Tool.blame 1 ("error opening ".toList ++ quote name ++ ": Permission denied".toList)
    | .error cause => Tool.blame 1 ("error opening ".toList ++ quote name ++ ": ".toList ++ reason cause)
  return 0

end LineShell.Utility
