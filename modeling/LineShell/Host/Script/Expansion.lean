import LineShell.Host.Script.Arithmetic
import LineShell.Host.Script.Fields
import LineShell.Host.Script.Machine

/-! The values of words. -/
namespace LineShell.Script

/-- What the words of a command are expanded for. -/
inductive Purpose
  /-- For fields. -/
  | fields
  /-- For one text. -/
  | text
  /-- For a pattern. -/
  | pattern
  deriving DecidableEq

/-- Runs a script in a word, and gives what it prints. -/
abbrev Substitute := Command → Step Text

def valuePieces (quoted : Bool) (t : Text) : List Piece :=
  if quoted then t.map .fixed else .border :: t.map .loose

/-- Whether the values of this list are fields of their own. -/
def isApart (name : Text) (quoted : Bool) (purpose : Purpose) : Bool :=
  purpose == .fields && (!quoted || name == ['@'])

/-- The pieces of values that are fields of their own. -/
def apartPieces (quoted : Bool) (values : List Text) : List Piece :=
  if quoted then
    ((values.map fun t => .presence :: t.map Piece.fixed).intersperse [.parting]).flatten
  else .border :: ((values.map fun t => t.map Piece.loose).intersperse [.gap]).flatten

def argumentPieces (name : Text) (quoted : Bool) (purpose : Purpose) (m : Machine) : List Piece :=
  if isApart name quoted purpose then apartPieces quoted m.parameters
  else valuePieces quoted (Text.joined m.joint m.parameters)

/-- The home directory of a user, without a name that of the user who runs the script. -/
def homeOf (m : Machine) (v : View) (user : Text) : Option Text :=
  if user = [] then m.value? "HOME".toList else v.homeOf? user

/-- Puts a home directory in place of a `~` at the front. `closed` says that the text ends where the
word or a part of it ends. -/
def tilde (home : Text → Option Text) (closed : Bool) (t : Text) : List Piece :=
  match t with
  | '~' :: rest =>
    let name := rest.takeWhile (· != '/')
    if name.length = rest.length ∧ !closed then t.map .plain
    else
      match home name with
      | some directory =>
        .presence :: directory.map .fixed ++ (rest.drop name.length).map .plain
      | none => t.map .plain
  | _ => t.map .plain

/-- As `tilde`, for every part of a text that starts behind a colon, and for the first one if it is
`fresh`. -/
def tildes (home : Text → Option Text) (fresh closed : Bool) : List Text → List Piece
  | [] => []
  | [part] => if fresh then tilde home closed part else part.map .plain
  | part :: rest =>
    (if fresh then tilde home true part else part.map .plain) ++
      .plain ':' :: tildes home true closed rest

def failUnset {α : Type} (name message : Text) : Step α := do
  Step.fail (name ++ ": ".toList ++ message)

/-- The value of an expression, as text. What it assigns is assigned. A quotient that is too large
ends the process. -/
def evaluate (t : Text) : Step Text := do
  match Arithmetic.eval (← get).value? t with
  | .error (some message) => Step.fail message
  | .error none => Step.perform (.halt (.signalled 8))
  | .ok (value, assigned) =>
    for (name, value) in assigned.reverse do Step.assign name value
    return Text.signed value.toInt

/-- The pieces of one fragment. Where `loose` holds, plain text is cut like an expansion. -/
def expandFragment (substitute : Substitute) : Nat → Purpose → Bool → Fragment → Step (List Piece)
  | 0, _, _, _ => return []
  | n + 1, purpose, loose, fragment => do
    let inside (purpose : Purpose) (loose tilded : Bool) (word : Word) :
        Step (List Piece) := do
      match tilded, word with
      | true, .literal ('~' :: t) false :: rest =>
        let front := tilde (homeOf (← get) (← Step.view)) rest.isEmpty ('~' :: t)
        return front ++ (← rest.mapM (expandFragment substitute n purpose loose)).flatten
      | _, _ => return (← word.mapM (expandFragment substitute n purpose loose)).flatten
    match fragment with
    | .literal t true => return .presence :: t.map .fixed
    | .literal t false => return if loose then .border :: t.map .loose else t.map .plain
    | .output script quoted => return valuePieces quoted (← substitute script)
    | .arithmetic expression quoted =>
      let t := Piece.text (← inside .text false false expression)
      return valuePieces quoted (← evaluate t)
    | .parameter name use quoted =>
      let m ← get
      let isList := name = ['@'] ∨ name = ['*']
      let value := m.parameter? name
      let lacks (strict : Bool) : Bool := value.isNone || (strict && value == some [])
      let required : Step Text := do
        match value with
        | some t => return t
        | none =>
          if m.has 'u' ∧ !isList then failUnset name "parameter not set".toList else return []
      let present : Step (List Piece) := do
        if isList then return argumentPieces name quoted purpose m
        else return valuePieces quoted (← required)
      match use with
      | .value => present
      | .size => return valuePieces quoted (Text.decimal (← required).length)
      | .default strict word =>
        if lacks strict then inside purpose (!quoted) (!quoted) word else present
      | .alternative strict word =>
        if lacks strict then return valuePieces quoted []
        else inside purpose (!quoted) (!quoted) word
      | .assign strict word =>
        if lacks strict then
          let t := Piece.text (← inside .text false (!quoted) word)
          if isName name then
            Step.assign name t
            return valuePieces quoted t
          else failUnset name "bad variable name".toList
        else present
      | .require strict word =>
        if lacks strict then
          let t := Piece.text (← inside .text false (!quoted) word)
          let usual := if strict then "parameter not set or null" else "parameter not set"
          failUnset name (if word.isEmpty then usual.toList else t)
        else present
      | .trim atEnd longest word =>
        let t ← required
        if value.isNone then return valuePieces quoted []
        else
          let pattern := Piece.marks (← inside .pattern false true word)
          let cut := if atEnd then Pattern.trimEnd else Pattern.trimFront
          if isList && isApart name quoted purpose then
            let t := cut pattern longest (Text.joined ['\x00'] m.parameters)
            return apartPieces quoted (splitWhere (· == '\x00') t)
          else return valuePieces quoted (cut pattern longest t)
      | .invalid => Step.fail "Bad substitution".toList

def expansionLimit : Nat := 1000

/-- The pieces of the fragments of a word. Only the first one is `fresh`. -/
def expandAll (substitute : Substitute) (purpose : Purpose) (colons : Bool) :
    Bool → Word → Step (List Piece)
  | _, [] => return []
  | fresh, .literal t false :: rest => do
    let pieces ←
      if t.contains '~' ∧ (colons ∨ fresh) then do
        let home := homeOf (← get) (← Step.view)
        pure (if colons then tildes home fresh rest.isEmpty (splitWhere (· == ':') t)
          else tilde home rest.isEmpty t)
      else pure (t.map .plain)
    return pieces ++ (← expandAll substitute purpose colons false rest)
  | _, fragment :: rest => do
    let pieces ← expandFragment substitute expansionLimit purpose false fragment
    return pieces ++ (← expandAll substitute purpose colons false rest)

/-- The pieces of a word. In an assignment every part behind a colon may begin with a `~`. -/
def expandPieces (substitute : Substitute) (purpose : Purpose) (colons : Bool) (word : Word) :
    Step (List Piece) := expandAll substitute purpose colons true word

def expandText (substitute : Substitute) (word : Word) : Step Text := do
  return Piece.text (← expandPieces substitute .text false word)

def expandPattern (substitute : Substitute) (word : Word) : Step Pattern := do
  return Piece.marks (← expandPieces substitute .pattern false word)

/-- The paths that the parts of a pattern between slashes lead to from here on. -/
def matchParts (v : View) : Nat → Text → Pattern → List Text
  | 0, _, _ => []
  | n + 1, before, p =>
    let slashes : Pattern := p.takeWhile (·.char == '/')
    let before := before ++ slashes.text
    let p : Pattern := p.drop slashes.length
    let part : Pattern := p.takeWhile (·.char != '/')
    let rest := p.drop part.length
    if part = [] then if (v.find before).isOk then [before] else []
    else if part.isActive then
      let hidden := part.head?.any (·.char == '.')
      let names := (v.namesIn (if before = [] then ['.'] else before)).filter fun name =>
        part.covers name && (hidden || name.head? != some '.')
      let dots := if hidden then [['.'], ['.', '.']].filter part.covers else []
      let names := dots ++ names
      if rest = [] then names.map (before ++ ·)
      else names.flatMap fun name => matchParts v n (before ++ name) rest
    else
      let path := before ++ part.unescape.text
      if rest ≠ [] then matchParts v n path rest
      else if v.has path then [path]
      else []

/-- The files that a field stands for, in order, or the field itself. -/
def filesFor (v : View) (field : Pattern) : List Text :=
  match matchParts v (field.length + 1) [] field with
  | [] => [field.text]
  | paths => paths.mergeSort Text.isAtMost

def expandFields (substitute : Substitute) (word : Word) : Step (List Text) := do
  let pieces ← expandPieces substitute .fields false word
  let m ← get
  let fields := Fields.ofPieces m.separators pieces
  if m.has 'f' ∨ !fields.any Pattern.isActive then return fields.map Pattern.text
  let v ← Step.view
  return fields.flatMap fun field =>
    if field.isActive then filesFor v field else [field.text]

def expandAssigned (substitute : Substitute) (word : Word) : Step Text := do
  return Piece.text (← expandPieces substitute .text true word)

end LineShell.Script
