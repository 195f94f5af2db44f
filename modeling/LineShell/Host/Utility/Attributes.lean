import LineShell.Host.Mode
import LineShell.Host.Utility.Copies
import LineShell.Host.Utility.DateText
import LineShell.Host.Utility.List

/-! What belongs to files: times, permissions, places and sizes. -/
namespace LineShell.Utility

/-! ### Times -/

/-- The time of a stamp such as `202001020304.05`, in nanoseconds. -/
def stamp? (zone : Zone) (now : Nat) (t : Text) : Option Int := do
  let (digits, seconds) ← match splitWhere (· == '.') t with
    | [digits] => some (digits, 0)
    | [digits, s] => if s.length = 2 then (Text.natural? s).map (digits, ·) else none
    | _ => none
  let _ ← Text.natural? digits
  let n (start length : Nat) (t : Text) : Nat := DateText.value ((t.drop start).take length)
  let year : Int ← match digits.length with
    | 8 => some (zone.momentOf (now / 1000000000 : Nat)).year
    | 10 => some (DateText.yearOf (digits.take 2))
    | 12 => some (n 0 4 digits)
    | _ => none
  let rest := digits.drop (digits.length - 8)
  let m : Moment :=
    { year, month := n 0 2 rest, day := n 2 2 rest, hour := n 4 2 rest, minute := n 6 2 rest,
      second := seconds }
  if m.month = 0 ∨ 12 < m.month ∨ m.day = 0 ∨ DateText.monthLength year m.month < m.day ∨
      23 < m.hour ∨ 59 < m.minute ∨ 60 < seconds then none
  else return zone.secondsTo (Calendar.secondsTo m) * 1000000000

/-- Makes files that are not there yet, and sets the times of those that are. -/
def touch : Tool Nat := do
  let g ← Known.given
    { letters := "acmhf", valued := "dtrx", named := "x"
      long := [("no-create", 'c'), ("date", 'd'), ("reference", 'r'), ("no-dereference", 'h'),
        ("time", 'x')] }
  let p ← Tool.process
  let v ← Tool.view
  let now := v.files.now
  let zone ← Tool.zone
  let time ← match g.value? 't', g.value? 'd', g.value? 'r' with
    | some t, _, _ =>
      match stamp? zone now t with
      | some n => pure n
      | none => Tool.refuse 1 ("invalid date format ".toList ++ quotePlainly t)
    | none, some t, _ =>
      match DateText.read? zone now t with
      | some n => pure n
      | none => Tool.refuse 1 ("invalid date format ".toList ++ quotePlainly t)
    | none, none, some name =>
      match v.find name with
      | .ok (_, node) => pure (v.files.modified node : Int)
      | .error cause =>
        Tool.refuse 1
          ("failed to get attributes of ".toList ++ quote name ++ ": ".toList ++ reason cause)
    | none, none, none => pure now
  if g.operands = [] then Tool.misuse 1 "missing file operand".toList
  let given := g.has 't' || g.has 'd' || g.has 'r'
  let onlyRead := g.has 'a' && !g.has 'm'
  let setTime (node : Node) : Tool Unit := do
    match node.id? with
    | some id =>
      if !onlyRead then
        let modified := time.toNat
        let _ ← Tool.change fun files _ => .ok (files.modifyInode id ({ · with modified }))
    | none => pure ()
  for name in g.operands do
    match ← Tool.find name with
    | .ok (_, node) => setTime node
    | .error cause =>
      if g.has 'c' ∧ cause = .os .noEntry then pure ()
      else
        let mode := 0o666 &&& (0o777 ^^^ p.mask)
        let result ← Tool.change fun files here =>
          match files.create here ⟨name⟩ mode with
          | .ok (_, files) => .ok files
          | .error cause => .error cause
        if result = some (.os .isDirectory) then
          let _ ← blameFor "setting times of".toList name (some (.os .noEntry))
        else if !(← blameFor "cannot touch".toList name result) then
          match (← Tool.view).node? name with
          | some node => if given then setTime node
          | none => pure ()
  return 0

/-! ### Permissions -/

def tellMode (g : Given) (name : Text) (old new : Nat) : Tool Unit := do
  let shown (mode : Nat) : Text :=
    Mode.digits 4 mode ++ " (".toList ++ (Mode.flags mode) ++ [')']
  if old ≠ new ∧ (g.has 'v' ∨ g.has 'c') then
    Tool.printLine ("mode of ".toList ++ quote name ++ " changed from ".toList ++ shown old ++
      " to ".toList ++ shown new)
  else if g.has 'v' then
    Tool.printLine ("mode of ".toList ++ quote name ++ " retained as ".toList ++ shown old)

/-- Changes the permissions of what a path leads to, and with `R` of all that is inside. -/
def changeModes (g : Given) (change : Bool → Nat → Nat) : Nat → Text → Location → Tool Unit
  | 0, _, _ => return ()
  | n + 1, name, location => do
    let files := (← Tool.view).files
    match files.root.at? location with
    | some node =>
      let old := files.mode node
      let mode := change node.isDirectory old
      let _ ← Tool.change fun files _ => .ok (files.setMode node mode)
      tellMode g name old mode
      if g.has 'R' then
        let files := (← Tool.view).files
        if node.isDirectory ∧ !files.mayRead node then
          Tool.blame 1 ("cannot read directory ".toList ++ quote name ++
            ": Permission denied".toList)
        else
          for (child, inner) in node.children do
            if !inner.isLink then
              changeModes g change n (Path.within name child) (location ++ [child])
    | none => return ()

def changeMode : Tool Nat := do
  let arguments ← Tool.arguments
  let isMode (t : Text) : Bool :=
    match t with
    | '-' :: c :: _ => "rwxXstugoa0-7,=+".toList.contains c
    | _ => false
  let known : Known :=
    { letters := "Rfvc", valued := "e", named := "e"
      long := [("recursive", 'R'), ("silent", 'f'), ("quiet", 'f'), ("verbose", 'v'),
        ("changes", 'c'), ("reference", 'e')] }
  let dashed := arguments.find? isMode
  let g ← known.read Known.letterLimit (arguments.filter (!isMode ·)) {}
  let v ← Tool.view
  let reference ← match g.value? 'e' with
    | none => pure none
    | some name =>
      match v.find name with
      | .ok (_, node) => pure (some (v.files.mode node))
      | .error cause =>
        Tool.refuse 1
          ("failed to get attributes of ".toList ++ quote name ++ ": ".toList ++ reason cause)
  let operands := dashed.toList ++ g.operands
  let (mode, names) ← match reference, operands with
    | some mode, names => pure (Mode.digits 4 mode, names)
    | none, [] => Tool.misuse 1 "missing operand".toList
    | none, [mode] => Tool.misuse 1 ("missing operand after ".toList ++ quotePlainly mode)
    | none, mode :: names => pure (mode, names)
  let mask := (← Tool.process).mask
  let change (isDirectory : Bool) (old : Nat) : Option Nat :=
    match Mode.octal? mode with
    | some new =>
      if 0o7777 < new then none
      else if isDirectory ∧ mode.length < 5 then some (new ||| (old &&& 0o6000))
      else some new
    | none => Mode.changed? isDirectory mask mode old
  if (change false 0).isNone then
    Tool.misuse 1 ("invalid mode: ".toList ++ quotePlainly mode)
  for name in names do
    match ← Tool.find name with
    | .error cause =>
      match ← existing name with
      | .ok (_, .link _) =>
        if !g.has 'f' then
          Tool.blame 1 ("cannot operate on dangling symlink ".toList ++ quote name)
        else modify ({ · with status := 1 })
      | _ =>
        if g.has 'f' then modify ({ · with status := 1 })
        else
          let _ ← blameFor "cannot access".toList name (some cause)
    | .ok (location, _) =>
      changeModes g (fun d old => (change d old).getD old) depthLimit name location
  return 0

/-! ### Places -/

/-- How much of a path has to be there. -/
inductive Presence
  | all
  | allButLast
  | nothing
  deriving DecidableEq

/-- The location that a path leads to when what is missing is taken as it is written. -/
def resolveLoosely (v : View) : Nat → Location → List Text → Location
  | 0, here, _ => here
  | _ + 1, here, [] => here
  | n + 1, here, name :: rest =>
    if name = [] ∨ name = ['.'] then resolveLoosely v n here rest
    else if name = ['.', '.'] then resolveLoosely v n here.dropLast rest
    else
      match v.files.root.at? (here ++ [name]) with
      | some (.link target) =>
        resolveLoosely v n (if target.isAbsolute then [] else here) (target.names ++ rest)
      | _ => resolveLoosely v n (here ++ [name]) rest

/-- The path of what a name leads to, links left out. -/
def canonicalPath (presence : Presence) (name : Text) : Tool (Except IoError Text) := do
  let v ← Tool.view
  match presence, v.files.resolve v.directory ⟨name⟩ .follow with
  | _, .ok (.found location _) => return .ok location.path.octets
  | .allButLast, .ok (.vacant location) => return .ok location.path.octets
  | .nothing, _ =>
    if name = [] then return .error (.os .noEntry)
    let start := if name.head? = some '/' then [] else v.directory
    return .ok (resolveLoosely v 10000 start (Path.names ⟨name⟩)).path.octets
  | _, .ok (.vacant _) => return .error (.os .noEntry)
  | _, .error cause => return .error cause

def linkTarget? (name : Text) : Tool (Except IoError Text) := do
  let v ← Tool.view
  return match v.entry name with
    | .ok (.found _ (.link target)) | .ok (.found _ (.handle _ target)) => .ok target.octets
    | .ok (.found ..) => .error (.os .invalidArgument)
    | .ok (.vacant _) => .error (.os .noEntry)
    | .error cause => .error cause

def readLinks : Tool Nat := do
  let g ← Known.givenOperands
    { letters := "femnqsvz"
      long := [("canonicalize", 'f'), ("canonicalize-existing", 'e'),
        ("canonicalize-missing", 'm'), ("no-newline", 'n'), ("quiet", 'q'), ("silent", 's'),
        ("verbose", 'v'), ("zero", 'z')] }
  let single := g.operands.length = 1
  if g.has 'n' ∧ !single then Tool.complain "ignoring --no-newline with multiple arguments".toList
  let ends := if g.has 'n' ∧ single then [] else if g.has 'z' then ['\x00'] else ['\n']
  let presence := (g.options.reverse.find? fun (c, _) => "fem".toList.contains c).map fun (c, _) =>
    match c with
    | 'f' => Presence.allButLast
    | 'e' => .all
    | _ => .nothing
  for name in g.operands do
    let found ← match presence with
      | some presence => canonicalPath presence name
      | none => linkTarget? name
    match found with
    | .ok t => Tool.print (t ++ ends)
    | .error cause =>
      modify ({ · with status := 1 })
      if g.has 'v' then Tool.complain (quoteIfNeeded name ++ ": ".toList ++ reason cause)
  return 0

/-- The path of a location as seen from a directory. -/
def relativePath (base target : Text) : Text :=
  let names (t : Text) : Location := (Path.names ⟨t⟩).filter (· != [])
  wayTo (names base) (names target)

def realPath : Tool Nat := do
  let g ← Known.givenOperands
    { letters := "emLPqsz", valued := "rb", named := "rb"
      long := [("canonicalize-existing", 'e'), ("canonicalize-missing", 'm'), ("quiet", 'q'),
        ("strip", 's'), ("no-symlinks", 's'), ("zero", 'z'), ("relative-to", 'r'),
        ("relative-base", 'b')] }
  let presence := if g.has 'e' then Presence.all else if g.has 'm' then .nothing else .allButLast
  let ends := if g.has 'z' then ['\x00'] else ['\n']
  let v ← Tool.view
  let plain (name : Text) : Text :=
    let all := Path.names ⟨Path.within v.directory.path.octets name⟩
    (Path.ofNames (all.foldl (fun names name =>
      if name = [] ∨ name = ['.'] then names
      else if name = ['.', '.'] then names.dropLast else names ++ [name]) [])).octets
  for name in g.operands do
    match ← canonicalPath presence name with
    | .ok t =>
      let t := if g.has 's' then plain name else t
      match g.value? 'r' with
      | some base =>
        match ← canonicalPath presence base with
        | .ok base => Tool.print (relativePath base t ++ ends)
        | .error _ => Tool.print (t ++ ends)
      | none => Tool.print (t ++ ends)
    | .error cause =>
      if g.has 'q' then modify ({ · with status := 1 })
      else Tool.blame 1 (quoteIfNeeded name ++ ": ".toList ++ reason cause)
  return 0

/-! ### Others -/

def makePipes : Tool Nat := do
  let g ← Known.givenOperands { valued := "m", long := [("mode", 'm')] }
  let mask := (← Tool.process).mask
  let mode ← match g.value? 'm' with
    | none => pure (0o666 &&& (0o777 ^^^ mask))
    | some t =>
      match (Mode.octal? t).orElse fun _ => Mode.changed? false 0 t 0o666 with
      | some mode => pure mode
      | none => Tool.refuse 1 "invalid mode".toList
  for name in g.operands do
    let what := "cannot create fifo".toList
    match ← entryAt name with
    | .error cause => let _ ← blameFor what name (some cause)
    | .ok ⟨_, some _⟩ => let _ ← blameFor what name (some (.os .fileExists))
    | .ok ⟨location, none⟩ =>
      let stream ← Tool.act (.update (System.addStream · {}))
      let cause ← Tool.change fun files _ =>
        if files.mayChange location then
          let (id, files) := files.addInode mode []
          .ok (files.put location (.pipe id stream))
        else .error (.os .accessDenied)
      let _ ← blameFor what name cause
  return 0

def resize : Tool Nat := do
  let g ← Known.given
    { letters := "co", valued := "sr"
      long := [("no-create", 'c'), ("size", 's'), ("reference", 'r')] }
  let v ← Tool.view
  let (sign, n) ← match g.value? 's', g.value? 'r' with
    | some t, _ =>
      let (sign, digits) := match t with
        | c :: rest => if "+-<>/%".toList.contains c then (some c, rest) else (none, t)
        | [] => (none, t)
      match sizeOf? digits with
      | some n => pure (sign, n)
      | none => Tool.refuse 1 ("Invalid number: ".toList ++ quotePlainly t)
    | none, some name =>
      match v.find name with
      | .ok (_, node) => pure (none, v.files.size node)
      | .error cause =>
        Tool.refuse 1 ("cannot stat ".toList ++ quote name ++ ": ".toList ++ reason cause)
    | none, none => Tool.misuse 1 "you must specify either '--size' or '--reference'".toList
  if g.operands = [] then Tool.misuse 1 "missing file operand".toList
  for name in g.operands do
    if g.has 'c' ∧ ((← Tool.view).node? name).isNone then continue
    match ← Tool.act (.openForWriting name .both) with
    | .error cause =>
      Tool.blame 1 ("cannot open ".toList ++ quote name ++ " for writing: ".toList ++ reason cause)
    | .ok descriptor =>
      Tool.act (.close descriptor)
      match (← Tool.view).node? name with
      | some (.file id) =>
        let content := ((← Tool.view).files.inode id).content
        let old := content.length
        let size := match sign with
          | some '+' => old + n
          | some '-' => old - n
          | some '<' => min old n
          | some '>' => max old n
          | some '/' => if n = 0 then old else old / n * n
          | some '%' => if n = 0 then old else (old + n - 1) / n * n
          | _ => n
        let new := content.take size ++ List.replicate (size - old) 0
        let _ ← Tool.change fun files _ => .ok (files.setContent id new)
      | _ => pure ()
  return 0

/-- Makes a file or a directory with a name that nothing else has. -/
def makeTemporary : Tool Nat := do
  let g ← Known.given
    { letters := "dqut", valued := "s", loose := "p", named := "s"
      long := [("directory", 'd'), ("quiet", 'q'), ("dry-run", 'u'), ("tmpdir", 'p'),
        ("suffix", 's')] }
  let p ← Tool.process
  let usual := (p.value? "TMPDIR".toList).filter (!·.isEmpty) |>.getD "/tmp".toList
  let template := g.operands.headD "tmp.XXXXXXXXXX".toList
  let suffix := g.value? 's' |>.getD []
  let stem := (template.reverse.dropWhile (· == 'X')).reverse
  let marks := template.length - stem.length
  if marks < 3 then
    Tool.refuse 1 ("too few X's in template ".toList ++ quotePlainly template)
  let letters := "0123456789ABCDEFGHIJKLMNOPQRSTUVWXYZabcdefghijklmnopqrstuvwxyz".toList
  let seed := (← Tool.view).files.now / 1000 + p.id * 7919
  let random (i : Nat) : Char :=
    letters.getD ((seed * 6364136223846793005 + (i + 1) * 1442695040888963407) / Nat.pow 2 (5 * i + 7) %
      62) 'a'
  let name := stem ++ (List.range marks).map random ++ suffix
  let inside := g.operands = [] || g.has 'p' || g.has 't'
  let directory := (g.value? 'p').filter (!·.isEmpty) |>.getD usual
  let path := if inside then Path.within directory name else name
  match ← entryAt path with
  | .ok ⟨location, none⟩ =>
    let cause ← if g.has 'u' then pure none
      else if g.has 'd' then placeDirectory location 0o700
      else Tool.change fun files _ =>
        if files.mayChange location then .ok (files.putFile location 0o600 []).2
        else .error (.os .accessDenied)
    match cause with
    | none =>
      Tool.printLine path
      return 0
    | some cause =>
      let kind := if g.has 'd' then "directory" else "file"
      Tool.refuse 1 (("failed to create " ++ kind ++ " via template ").toList ++
        quotePlainly (if inside then Path.within directory template else template) ++
        ": ".toList ++ reason cause)
  | result =>
    let cause := match result with
      | .error cause => cause
      | .ok _ => .os .fileExists
    let kind := if g.has 'd' then "directory" else "file"
    Tool.refuse 1 (("failed to create " ++ kind ++ " via template ").toList ++
      quotePlainly (if inside then Path.within directory template else template) ++
      ": ".toList ++ reason cause)

/-- What a directive of a format for the state of a file stands for. -/
def stateOf (zone : Zone) (v : View) (name : Text) (node : Node) (c : Char) : Text :=
  let files := v.files
  let mode := files.mode node
  let kindBits := match node with
    | .directory .. => 0o040000
    | .link _ | .handle .. => 0o120000
    | .pipe .. => 0o010000
    | .device _ => 0o020000
    | _ => 0o100000
  let time := files.modified node
  let size := files.size node
  match c with
  | 'a' => Nat.toDigits 8 mode
  | 'A' => modeLetters files node
  | 'f' => Nat.toDigits 16 (mode ||| kindBits)
  | 's' => Text.decimal size
  | 'n' => name
  | 'N' =>
    match node with
    | .link target => quote name ++ " -> ".toList ++ quote target.octets
    | _ => quote name
  | 'F' => (kindName files node).toList
  | 'h' =>
    let l : Listing := { given := {}, files }
    Text.decimal (l.links node)
  | 'i' => Text.decimal (node.id?.getD 0 + 1000)
  | 'b' => Text.decimal ((size + 4095) / 4096 * 8)
  | 'B' => "512".toList
  | 'o' => "4096".toList
  | 'u' | 'g' => ['0']
  | 'U' | 'G' => "root".toList
  | 'm' => ['/']
  | 'd' => "50".toList
  | 't' | 'T' => ['0']
  | 'X' | 'Y' | 'Z' => Text.decimal (time / 1000000000)
  | 'W' => ['0']
  | 'x' | 'y' | 'z' => DateText.format zone time "%F %T.%N %z".toList
  | 'w' => ['-']
  | '%' => ['%']
  | _ => ['?']

def stateText (directive : Char → Text) (escapes : Bool) : Nat → Text → Text
  | 0, _ => []
  | _ + 1, [] => []
  | fuel + 1, '%' :: rest =>
    let flags := rest.takeWhile "-0+ #".toList.contains
    let digits := (rest.drop flags.length).takeWhile Char.isDigit
    match rest.drop (flags.length + digits.length) with
    | [] => ['%']
    | c :: more =>
      let t := directive c
      let space := List.replicate ((Text.natural? digits).getD 0 - t.length)
        (if flags.contains '0' then '0' else ' ')
      (if flags.contains '-' then t ++ space else space ++ t) ++ stateText directive escapes fuel more
  | fuel + 1, '\\' :: c :: rest =>
    if escapes then
      let shown := match c with
        | 'n' => ['\n']
        | 't' => ['\t']
        | '\\' => ['\\']
        | '"' => ['"']
        | c => ['\\', c]
      shown ++ stateText directive escapes fuel rest
    else '\\' :: stateText directive escapes fuel (c :: rest)
  | fuel + 1, c :: rest => c :: stateText directive escapes fuel rest

def showState : Tool Nat := do
  let g ← Known.givenOperands
    { letters := "Lft", valued := "cp", named := "p"
      long := [("dereference", 'L'), ("format", 'c'), ("printf", 'p'), ("terse", 't')] }
  let usual := "  File: %N\n  Size: %-10s\tBlocks: %-10b IO Block: %-6o %F\nDevice: 0,%d\t".toList ++
    "Inode: %-11i Links: %h\nAccess: (%04a/%10A)  Uid: (%5u/%8U)   Gid: (%5g/%8G)\n".toList ++
    "Access: %x\nModify: %y\nChange: %z\n Birth: %w".toList
  let (format, isPrintf) := match g.value? 'p', g.value? 'c' with
    | some t, _ => (t, true)
    | none, some t => (t, false)
    | none, none => (usual, false)
  for name in g.operands do
    match ← if g.has 'L' then Tool.find name else existing name with
    | .error cause => let _ ← blameFor "cannot statx".toList name (some cause)
    | .ok (_, node) =>
      let v ← Tool.view
      let zone ← Tool.zone
      let t := stateText (stateOf zone v name node) isPrintf (format.length + 1) format
      Tool.print (if isPrintf then t else t.line)
  return 0

end LineShell.Utility
