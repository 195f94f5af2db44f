import LineShell.Host.Accounts
import LineShell.Host.Utility.Finding.Format
import LineShell.Host.Utility.Identity

/-! The arguments that say what is to be found, and what is to be done with it. -/
namespace LineShell.Finding

open Utility

inductive Token
  | primary (name : Text) (p : Primary)
  | no (name : Text)
  /-- Stands between two others; operators of a higher rank bind closer. -/
  | between (name : Text) (rank : Nat)
  /-- A bracket; one that nobody has written is put around everything. -/
  | opening (written : Bool)
  | closing (written : Bool)

namespace Token

def rank : Token → Nat
  | .between _ n => n
  | .no _ => 4
  | _ => 0

def name : Token → Text
  | .primary name _ | .no name | .between name _ => name
  | .opening _ => ['(']
  | .closing _ => [')']

def ends : Token → Bool
  | .primary .. | .closing _ => true
  | _ => false

mutual

/-- Takes a query whose operators have a rank above the given one; what stands in front of it helps
to say what is wrong. -/
def query : Nat → Nat → Option Token → List Token → Except Text (Query × List Token)
  | 0, _, _, _ => .error "invalid expression".toList
  | fuel + 1, rank, before, tokens =>
    let first : Except Text (Query × List Token) := match tokens with
      | [] => .error "invalid expression".toList
      | .between name _ :: _ =>
        .error ("invalid expression; you have used a binary operator '".toList ++ name ++
          "' with nothing before it.".toList)
      | .closing written :: _ =>
        let name := (before.map Token.name).getD []
        match before, written with
        | some (.no _), true | some (.between ..), true =>
          .error ("expected an expression between '".toList ++ name ++ "' and ')'".toList)
        | _, false => .error ("expected an expression after '".toList ++ name ++ ['\''])
        | _, true => .error "invalid expression; you have too many ')'".toList
      | .primary _ p :: rest => .ok (.primary p, rest)
      | .no name :: rest =>
        (query fuel 4 (some (.no name)) rest).map fun (q, rest) => (.no q, rest)
      | .opening written :: rest =>
        match rest with
        | [] | .closing false :: _ =>
          .error ("invalid expression; expected to find a ')' but didn't see one. " ++
            "Perhaps you need an extra predicate after '('").toList
        | .closing true :: _ =>
          .error "invalid expression; empty parentheses are not allowed.".toList
        | _ =>
          match query fuel 0 (some (.opening written)) rest with
          | .error message => .error message
          | .ok (q, .closing _ :: rest) => .ok (q, rest)
          | .ok _ => .error ("invalid expression; I was expecting to find a ')' somewhere " ++
              "but did not see one.").toList
    match first with
    | .error message => .error message
    | .ok (q, rest) => further fuel rank q rest

/-- Takes what follows a query as long as its operators have a rank above the given one. -/
def further : Nat → Nat → Query → List Token → Except Text (Query × List Token)
  | 0, _, _, _ => .error "invalid expression".toList
  | _ + 1, _, q, [] => .ok (q, [])
  | fuel + 1, rank, q, token :: rest =>
    if token.rank ≤ rank then .ok (q, token :: rest)
    else
      match token with
      | .between name n =>
        match query fuel n (some (.between name n)) rest with
        | .error message => .error message
        | .ok (other, rest) =>
          let joined : Query := match n with
            | 1 => .each q other
            | 2 => .either q other
            | _ => .both q other
          further fuel rank joined rest
      | _ => .error "invalid expression".toList

end

def wholeQuery (tokens : List Token) : Except Text Query :=
  match query (4 * tokens.length + 4) 0 none tokens with
  | .error message => .error message
  | .ok (q, []) => .ok q
  | .ok (_, .closing _ :: _) => .error "you have too many ')'".toList
  | .ok (_, token :: _) =>
    .error ("unexpected extra predicate '".toList ++ token.name ++ ['\''])

end Token

/-- How far the arguments have been read. -/
structure Reading where
  rest : List Text
  /-- The last one comes first. -/
  tokens : List Token := []
  manner : Manner := {}
  dialect : Regex.Dialect := {}
  /-- When today is thought to have begun a day ago. -/
  origin : Int := 0
  /-- Something is done with files, so that they are not just printed. -/
  acts : Bool := false
  deletes : Bool := false
  prunes : Bool := false
  /-- It has been said that directories come last. -/
  ordered : Bool := false
  outputs : List (Text × Nat) := []
  /-- How many commands are given many files at once. -/
  gathering : Nat := 0

abbrev Reader := StateT Reading Tool

namespace Reader

def refuse {α : Type} (message : Text) : Reader α := (Tool.refuse 1 message : Tool α)

/-- Adds a token, and the operator that is understood in front of it. -/
def add (t : Token) : Reader Unit :=
  modify fun r =>
    let isJoined := match t with
      | .between .. | .closing _ => false
      | _ => r.tokens.head?.any Token.ends
    { r with tokens := t :: if isJoined then .between "-a".toList 3 :: r.tokens else r.tokens }

def test (name : Text) (p : Primary) : Reader Unit := add (.primary name p)

def action (name : Text) (p : Primary) : Reader Unit := do
  test name p
  modify ({ · with acts := true })

def argument (name : Text) : Reader Text := do
  match (← get).rest with
  | [] => refuse ("missing argument to \x60".toList ++ name ++ ['\''])
  | t :: rest =>
    modify ({ · with rest })
    return t

def invalid {α : Type} (name t : Text) : Reader α :=
  refuse ("invalid argument \x60".toList ++ t ++ "' to \x60".toList ++ name ++ ['\''])

/-- How a number is compared, by the sign in front of it. -/
def comparison : Text → Comparison × Text
  | '+' :: rest => (.more, rest)
  | '-' :: rest => (.less, rest)
  | t => (.exactly, t)

def number (name : Text) : Reader (Comparison × Nat) := do
  let t ← argument name
  let (c, digits) := comparison t
  match Text.natural? digits with
  | some n => return (c, n)
  | none => invalid name t

/-- What a name leads to, links followed as they are for a search. -/
def lookUp (name : Text) : Reader (Location × Node) := do
  let v ← (Tool.view : Tool View)
  let found := if (← get).manner.following = .none then
      match v.entry name with
      | .ok (.found location node) => Except.ok (location, node)
      | .ok (.vacant _) => .error (.os .noEntry)
      | .error cause => .error cause
    else v.find name
  match found with
  | .ok found => return found
  | .error cause => refuse (quotePlainly name ++ ": ".toList ++ reason cause)

def identityOf (location : Location) (node : Node) : Identity :=
  match node.id? with
  | some id => .inl id
  | none => .inr location

/-- Opens a file to write to; a name that has been opened is the same file. -/
def destination (name : Text) : Reader Destination := do
  if name = "/dev/stdout".toList then return none
  if name = "/dev/stderr".toList then return some 2
  match (← get).outputs.lookup name with
  | some descriptor => return some descriptor
  | none =>
    match ← (Tool.act (.openForWriting name (.write false)) : Tool _) with
    | .ok descriptor =>
      modify fun r => { r with outputs := (name, descriptor) :: r.outputs }
      return some descriptor
    | .error cause => refuse (quotePlainly name ++ ": ".toList ++ reason cause)

def kinds (name : Text) : Reader Text := do
  let t ← argument name
  if t = [] then
    refuse ("Arguments to ".toList ++ name ++ " should contain at least one letter".toList)
  collect name (t.length + 1) t []
where
  /-- Takes letters one by one. -/
  collect (name : Text) : Nat → Text → Text → Reader Text
    | 0, _, found => return found
    | _ + 1, [], found => return found
    | fuel + 1, c :: rest, found => do
      if c = 'D' then
        refuse (name ++ (" D is not supported because Solaris doors are not supported on the " ++
          "platform find was compiled on.").toList)
      if !"bcdpfls".toList.contains c then
        refuse ("Unknown argument to ".toList ++ name ++ ": ".toList ++ [c])
      if found.contains c then
        refuse ("Duplicate file type '".toList ++ c :: "' in the argument list to ".toList ++ name ++
          ['.'])
      match rest with
      | [] => return c :: found
      | [','] =>
        refuse ("Last file type in list argument to ".toList ++ name ++
          " is missing, i.e., list is ending on: ','".toList)
      | ',' :: rest => collect name fuel rest (c :: found)
      | _ => refuse ("Must separate multiple arguments to ".toList ++ name ++ " using: ','".toList)

/-- Permissions with how many of them a file has to have. -/
def permissions (name : Text) : Reader Unit := do
  let t ← argument name
  let (how, body) : Coverage × Text := match t with
    | '-' :: rest => (.all, rest)
    | '/' :: rest => (.any, rest)
    | _ => (.exactly, t)
  let isSigned := body.head? = some '+' && (body.drop 1).all Char.isDigit
  let mode? (isDirectory : Bool) : Option Nat :=
    match Mode.octal? body with
    | some n => if 0o7777 < n then none else some n
    | none => if body = [] ∨ isSigned then none else Mode.changed? isDirectory 0 body 0
  match mode? false, mode? true with
  | some file, some directory =>
    if how = .any ∧ file = 0 then
      (Tool.complain (("warning: you have specified a mode pattern ").toList ++ t ++
        (" (which is equivalent to /000). The meaning of -perm /000 has now been changed to be " ++
          "consistent with -perm -000; that is, while it used to match no files, it now matches " ++
          "all files.").toList) : Tool Unit)
      test name (.permissions .all 0 0)
    else test name (.permissions how file directory)
  | _, _ => refuse ("invalid mode ".toList ++ quotePlainly t)

def size (name : Text) : Reader Unit := do
  let t ← argument name
  match t.getLast? with
  | none => refuse "invalid null argument to -size".toList
  | some last =>
    let units := [('b', 512), ('c', 1), ('w', 2), ('k', 1024), ('M', Nat.pow 1024 2), ('G', Nat.pow 1024 3)]
    let (unit, body) ← (if last.isDigit then pure (512, t)
      else match units.lookup last with
        | some unit => pure (unit, t.dropLast)
        | none =>
          refuse ("invalid -size type \x60".toList ++ [last, '\'']) : Reader (Nat × Text))
    let (c, digits) := comparison body
    match Text.natural? digits with
    | some n => test name (.size c n unit)
    | none => refuse ("Invalid argument \x60".toList ++ t ++ "' to -size".toList)

/-- How many nanoseconds so many units of seconds are; a fraction may stand behind a point. -/
def span? (unit : Nat) (t : Text) : Option Nat :=
  match Quantity.takeDigits 10 t with
  | ([], _, _) => none
  | (digits, places, rest) =>
    if rest ≠ [] then none
    else some (Quantity.digitsValue 10 digits * unit * 1000000000 / Nat.pow 10 places)

/-- How long ago a file has been changed, in units of so many seconds. -/
def age (name : Text) (unit : Nat) : Reader Unit := do
  let t ← argument name
  let (c, digits) := comparison t
  let second : Int := 1000000000
  let day := 86400 * second
  match span? unit digits with
  | none => invalid name t
  | some n =>
    let r ← get
    let begun := r.origin
    let base := if unit = 60 then begun + day
      else if c = .less then begun + day - second else begun
    let time := base - n
    test name (match c with
      | .exactly => .within time (unit * second)
      | .more => .older time
      | .less => .newer time)

def owner (name : Text) (numberOf : View → Text → Option Nat) (unknown : String) : Reader Unit := do
  let t ← argument name
  if t = [] then
    refuse ("The argument to ".toList ++ name ++ " should not be empty".toList)
  let v ← (Tool.view : Tool View)
  match (numberOf v t).orElse fun _ => Text.natural? t with
  | some n => test name (.owner .exactly n)
  | none => refuse (quotePlainly t ++ unknown.toList)

/-- The ways in which regular expressions can be written. -/
def dialects : List (String × Regex.Dialect) :=
  let emacs : Regex.Dialect :=
    { plainRepeats := true, counted := false, classes := false }
  let basic : Regex.Dialect := {}
  let extended : Regex.Dialect := { extended := true, strict := true }
  let loose : Regex.Dialect := { extended := true }
  [("findutils-default", emacs), ("ed", basic), ("emacs", emacs), ("gnu-awk", loose),
    ("grep", basic), ("posix-awk", loose), ("awk", loose), ("posix-basic", basic),
    ("posix-egrep", loose), ("egrep", loose), ("posix-extended", extended),
    ("posix-minimal-basic", { basic with words := false }), ("sed", basic)]

def expression (name : Text) (anyCase : Bool) : Reader Unit := do
  let t ← argument name
  match { (← get).dialect with anyCase }.read t with
  | .ok (r, _) => test name (.regex r)
  | .error fault =>
    refuse ("failed to compile regular expression '".toList ++ t ++ "': ".toList ++ fault.message)

def hasMark : Text → Bool
  | '\x7b' :: '\x7d' :: _ => true
  | _ :: rest => hasMark rest
  | [] => false

/-- The words of a command up to its end, and whether it is given many files at once. -/
def commandWords (plus : Bool) : List Text → List Text → Option (List Text × Bool × List Text)
  | [], _ => none
  | [';'] :: rest, found => some (found.reverse, false, rest)
  | ['+'] :: rest, found =>
    if plus ∧ found.head?.any hasMark then some (found.reverse, true, rest)
    else commandWords plus rest (['+'] :: found)
  | t :: rest, found => commandWords plus rest (t :: found)

/-- Refuses to run commands in the directories of files when programs are looked for there. -/
def checkPath (name : Text) : Reader Unit := do
  let p ← (Tool.process : Tool Process)
  let entries := ((p.value? "PATH".toList).map (splitWhere (· == ':'))).getD []
  for entry in entries do
    if entry = [] ∨ entry = ['.'] then
      refuse ("The current directory is included in the PATH environment variable, which is insecure in combination with the ".toList ++ name ++ (" action of find.  Please remove the current directory from your $PATH (that is, remove \".\", doubled colons, or leading or trailing colons)").toList)
    else if entry.head? ≠ some '/' then
      refuse ("The relative path ".toList ++ quotePlainly entry ++ " is included in the PATH environment variable, which is insecure in combination with the ".toList ++ name ++ " action of find.  Please remove that entry from $PATH".toList)

def command (name : Text) (inside asks : Bool) : Reader Unit := do
  let rest := (← get).rest
  match commandWords (!asks) rest [] with
  | none => refuse ("missing argument to \x60".toList ++ name ++ ['\''])
  | some ([], _, _) => invalid name [';']
  | some (words, many, rest) =>
    if inside then checkPath name
    modify ({ · with rest })
    if many then
      let suffix := if inside then "dir" else ""
      let marked := words.filter hasMark
      if 1 < marked.length then
        refuse ("Only one instance of \x7b\x7d is supported with -exec" ++ suffix ++ " ... +").toList
      if words.getLast? ≠ some ['\x7b', '\x7d'] then
        refuse (("In '-exec" ++ suffix ++ " ... \x7b\x7d +' the '\x7b\x7d' must appear by itself, but you " ++
          "specified '").toList ++ words.getLast?.getD [] ++ ['\''])
      modify fun r => { r with gathering := r.gathering + 1 }
      let gathers := some (← get).gathering
      action name (.run { words := words.dropLast, inside, gathers })
    else action name (.run { words, inside, asks })

def depth (name : Text) : Reader Nat := do
  let t ← argument name
  match Text.natural? t with
  | some n => return n
  | none =>
    refuse ("Expected a positive decimal integer argument to ".toList ++ name ++ ", but got ".toList ++
      quotePlainly t)

/-- A test of two times, by the letters behind `-newer`: the time of the file and that of another
one, or one that is written out. -/
def newerThan (name : Text) (letters : Text) : Reader Unit := do
  let refused {α : Type} : Reader α := refuse ("invalid predicate \x60".toList ++ name ++ ['\''])
  match letters with
  | [x, y] =>
    if !"aBcm".toList.contains x ∨ !"aBcmt".toList.contains y then refused
    if x = 'B' ∨ y = 'B' then
      (Tool.complain
        "This system does not provide a way to find the birth time of a file.".toList : Tool Unit)
      refused
    let t ← argument name
    if y = 't' then
      let zone ← (Tool.zone : Tool Zone)
      let v ← (Tool.view : Tool View)
      match DateText.read? zone v.files.now t with
      | some time => test name (.newer time)
      | none =>
        refuse ("I cannot figure out how to interpret ".toList ++ quotePlainly t ++
          " as a date or time".toList)
    else
      let (_, node) ← lookUp t
      test name (.newer ((← (Tool.view : Tool View)).files.modified node))
  | _ => refused

def word (name : Text) : Reader Unit := do
  let constant : Reader Unit := test name (.constant true)
  let compared (f : Comparison → Nat → Primary) : Reader Unit := do
    let (c, n) ← number name
    test name (f c n)
  let changed (f : Manner → Manner) : Reader Unit := do
    modify fun r => { r with manner := f r.manner }
    constant
  let newer : Reader Unit := do
    let (_, node) ← lookUp (← argument name)
    test name (.newer ((← (Tool.view : Tool View)).files.modified node))
  match String.ofList name with
  | "(" => add (.opening true)
  | ")" => add (.closing true)
  | "!" | "-not" => add (.no name)
  | "-a" | "-and" => add (.between name 3)
  | "-o" | "-or" => add (.between name 2)
  | "," => add (.between name 1)
  | "-true" | "-noleaf" | "-ignore_readdir_race" | "-noignore_readdir_race" | "-warn" | "-nowarn"
  | "-mount" | "-xdev" => constant
  | "-false" => test name (.constant false)
  | "-depth" | "-d" =>
    modify ({ · with ordered := true })
    changed ({ · with depthFirst := true })
  | "-follow" => changed ({ · with following := .all })
  | "-daystart" =>
    let v ← (Tool.view : Tool View)
    let zone ← (Tool.zone : Tool Zone)
    let here : Int := v.files.now / 1000000000
    let m := zone.momentOf here
    let start := zone.secondsTo (Calendar.secondsTo { m with hour := 0, minute := 0, second := 0 })
    modify ({ · with origin := start * 1000000000 })
  | "-maxdepth" =>
    let n ← depth name
    changed ({ · with most := some n })
  | "-mindepth" =>
    let n ← depth name
    changed ({ · with least := n })
  | "-regextype" =>
    let t ← argument name
    match dialects.find? fun (known, _) => known.toList == t with
    | some (_, dialect) =>
      modify ({ · with dialect })
      constant
    | none =>
      refuse ("Unknown regular expression type ".toList ++ quotePlainly t ++
        "; valid types are ".toList ++
        Text.joined [',', ' '] (dialects.map fun (known, _) => quotePlainly known.toList) ++ ['.'])
  | "-name" => do test name (.name (← argument name) false)
  | "-iname" => do test name (.name (← argument name) true)
  | "-path" | "-wholename" => do test name (.path (← argument name) false)
  | "-ipath" | "-iwholename" => do test name (.path (← argument name) true)
  | "-lname" => do test name (.target (← argument name) false)
  | "-ilname" => do test name (.target (← argument name) true)
  | "-regex" => expression name false
  | "-iregex" => expression name true
  | "-type" => do test name (.kind (← kinds name) false)
  | "-xtype" => do test name (.kind (← kinds name) true)
  | "-perm" => permissions name
  | "-size" => size name
  | "-empty" => test name .empty
  | "-links" => compared .links
  | "-inum" => compared .number
  | "-uid" | "-gid" => compared .owner
  | "-user" =>
    owner name (fun v t => (v.accounts.find? (·.name == t)).map Account.number)
      " is not the name of a known user"
  | "-group" =>
    owner name (fun v t => (v.circles.find? (·.name == t)).map Circle.number)
      " is not the name of an existing group"
  | "-nouser" | "-nogroup" => test name .ownerless
  | "-newer" | "-anewer" | "-cnewer" => newer
  | "-mtime" | "-atime" | "-ctime" => age name 86400
  | "-mmin" | "-amin" | "-cmin" => age name 60
  | "-used" =>
    let t ← argument name
    let (c, digits) := comparison t
    match span? 86400 digits with
    | some n => test name (.constant (c.holds 0 n))
    | none => refuse ("Invalid argument ".toList ++ t ++ " to -used".toList)
  | "-samefile" =>
    let (location, node) ← lookUp (← argument name)
    test name (.same (identityOf location node))
  | "-fstype" => do test name (.constant ((← argument name) == "overlay".toList))
  | "-context" => refuse "invalid predicate -context: SELinux is not enabled.".toList
  | "-readable" => test name (.may 0o400)
  | "-writable" => test name (.may 0o200)
  | "-executable" => test name (.may 0o100)
  | "-prune" =>
    modify ({ · with prunes := true })
    test name .prune
  | "-quit" => test name .quit
  | "-delete" =>
    modify fun r => { r with deletes := true, manner := { r.manner with depthFirst := true } }
    action name .delete
  | "-print" => action name (.print none '\n')
  | "-print0" => action name (.print none '\x00')
  | "-ls" => action name (.list none)
  | "-printf" =>
    let t ← argument name
    let pieces ← (Piece.ofText (t.length + 1) t : Tool (List Piece))
    action name (.format none pieces)
  | "-fprint" => do action name (.print (← destination (← argument name)) '\n')
  | "-fprint0" => do action name (.print (← destination (← argument name)) '\x00')
  | "-fls" => do action name (.list (← destination (← argument name)))
  | "-fprintf" =>
    let file ← argument name
    match (← get).rest with
    | [] => invalid name file
    | t :: rest =>
      modify ({ · with rest })
      let sink ← destination file
      let pieces ← (Piece.ofText (t.length + 1) t : Tool (List Piece))
      action name (.format sink pieces)
  | "-exec" => command name false false
  | "-execdir" => command name true false
  | "-ok" => command name false true
  | "-okdir" => command name true true
  | _ =>
    if "-newer".toList.isPrefixOf name ∧ 7 < name.length then newerThan name (name.drop 6)
    else refuse ("unknown predicate \x60".toList ++ name ++ ['\''])

/-- Whether a word belongs to a query and is no path. -/
def isQueryWord (leading : Bool) (t : Text) : Bool :=
  match t with
  | ['('] | ['!'] => true
  | [')'] | [','] => !leading
  | '-' :: _ :: _ => true
  | _ => false

def words : Nat → Reader Unit
  | 0 => return ()
  | fuel + 1 => do
    match (← get).rest with
    | [] => return ()
    | t :: rest =>
      if !isQueryWord false t then
        (Tool.complain ("paths must precede expression: \x60".toList ++ t ++ ['\'']) : Tool Unit)
        let v ← (Tool.view : Tool View)
        match (← get).tokens.head? with
        | some (.primary name (.name ..)) | some (.primary name (.path ..))
        | some (.primary name (.target ..)) | some (.primary name (.regex ..)) =>
          if v.has t then
            (Tool.complain ("possible unquoted pattern after predicate \x60".toList ++ name ++
              "'?".toList) : Tool Unit)
        | _ => pure ()
        (Tool.stop 1 : Tool Unit)
      modify ({ · with rest })
      word t
      words fuel

/-- Reads a query, and prints what it finds unless it says what else to do. -/
def whole : Reader Query := do
  words ((← get).rest.length + 1)
  let r ← get
  if r.deletes ∧ r.prunes ∧ !r.ordered then
    refuse ("The -delete action automatically turns on -depth, but -prune does nothing when -depth " ++
      "is in effect.  If you want to carry on anyway, just explicitly use the -depth option.").toList
  let print : Token := .primary "-print".toList (.print none '\n')
  let tokens := r.tokens.reverse
  let all := if tokens = [] then [print]
    else if r.acts then tokens
    else .opening false :: tokens ++ [.closing false, .between "-a".toList 3, print]
  match Token.wholeQuery all with
  | .ok q => return q
  | .error message => refuse message

end Reader
end LineShell.Finding
