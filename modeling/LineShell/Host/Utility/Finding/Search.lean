import LineShell.Host.Utility.Finding.Reader
import LineShell.Host.Utility.Running

/-! Going through trees of files, and doing what a query says about each of them. -/
namespace LineShell.Finding

open Utility

/-- Files that are still to be given to a command. -/
structure Batch where
  order : Order
  /-- The last file comes first. -/
  paths : List Text := []
  /-- Where the command is to run. -/
  directory : Text := ['.']

/-- What a search knows between two files. -/
structure Progress where
  status : Nat := 0
  batches : List (Nat × Batch) := []
  /-- It has been said that the file cannot be looked at. -/
  told : Bool := false
  /-- The directory is not to be entered. -/
  pruned : Bool := false
  stopped : Bool := false

structure Plan where
  manner : Manner
  query : Query
  start : Script.Start
  zone : Zone

abbrev Search := ReaderT Plan (StateT Progress Tool)

namespace Search

def perform {α : Type} (tool : Tool α) : Search α := fun _ s => do return (← tool, s)

def blame (path : Text) (cause : IoError) : Search Unit := do
  perform Tool.flush
  perform (Tool.complain (quotePlainly path ++ ": ".toList ++ reason cause))
  modify ({ · with status := 1 })

/-- Goes on only if the file can be looked at; otherwise nothing holds of it. -/
def looking (x : Visit) (test : Search Bool) : Search Bool := do
  if x.reachable then test
  else
    if !(← get).told then
      blame x.path (.os .accessDenied)
      modify ({ · with told := true })
    return false

def emit (sink : Destination) (t : Text) : Search Unit := do
  match sink with
  | none => perform (Tool.print t)
  | some descriptor =>
    perform Tool.flush
    let _ ← perform (Tool.act (.write descriptor t))

/-! ### Commands -/

/-- How many bytes of arguments a command is given at once. -/
def argumentLimit : Nat := 126976

/-- Runs a command, in a directory if one is named, and says whether it ended well. -/
def runWords (words : List Text) (directory : Option Text) (withInput : Bool) : Search Bool := do
  let plan ← read
  let name := words.headD []
  let v ← perform Tool.view
  let location := directory.bind fun t => ((v.find t).toOption).map (·.1)
  perform Tool.flush
  let environment := (← perform Tool.process).environment
  let id ← perform <| Tool.act <| Activity.fork <| Tool.finish 1 do
    if let some location := location then
      Tool.act (.alter ({ · with directory := location }))
    if !withInput then
      let file : OpenFile := { source := .device .null, path := .ofText "/dev/null".toList }
      let number ← Tool.act (.update (System.addFile · file))
      Tool.act (.attach 0 number)
    let cause ← startCommand plan.start environment words
    Tool.complain (quotePlainly name ++ ": ".toList ++ reason cause)
    return 1
  match ← perform (Tool.act (.join id)) with
  | .exited code => return code = 0
  | .signalled n =>
    perform (Tool.complain (quotePlainly name ++ " terminated by signal ".toList ++ Text.decimal n))
    return false

/-- Puts a path in the place of every mark in a text. -/
def fillIn (path : Text) : Text → Text
  | '\x7b' :: '\x7d' :: rest => path ++ fillIn path rest
  | c :: rest => c :: fillIn path rest
  | [] => []

/-- Gives the files that have been gathered to their command. -/
def finishBatch (n : Nat) : Search Unit := do
  match (← get).batches.lookup n with
  | none => return ()
  | some b =>
    modify fun s => { s with batches := s.batches.filter (·.1 != n) }
    let directory := if b.order.inside then some b.directory else none
    if !(← runWords (b.order.words ++ b.paths.reverse) directory true) then
      modify ({ · with status := 1 })

/-- How a command in the directory of a file sees the file. -/
def insidePath (x : Visit) : Text := if x.path.all (· == '/') then x.path else "./".toList ++ x.name

/-- Runs a command for a file, or keeps the file for it. -/
def runOrder (x : Visit) (o : Order) : Search Bool := do
  let path := if o.inside then insidePath x else x.path
  let directory := x.directory
  match o.gathers with
  | some n =>
    match (← get).batches.lookup n with
    | some b =>
      let size := sumOf ((b.order.words ++ path :: b.paths).map fun t => t.length + 9)
      if argumentLimit < size ∨ (o.inside ∧ b.directory ≠ directory) then finishBatch n
    | none => pure ()
    let old := ((← get).batches.lookup n).getD { order := o, directory }
    let new := { old with paths := path :: old.paths }
    modify fun s =>
      { s with batches := s.batches.filter (·.1 != n) ++ [(n, new)] }
    return true
  | none =>
    let agreed ← if o.asks then do
        perform Tool.flush
        let question := "< ".toList ++ o.words.headD [] ++ " ... ".toList ++ x.path ++ " > ? ".toList
        let _ ← perform (Tool.act (.write 2 question))
        let answer ← perform (Tool.ask.readAnswer 10000 [])
        pure (answer.head?.any fun c => c == 'y' || c == 'Y')
      else pure true
    if !agreed then return false
    runWords (o.words.map (fillIn path)) (if o.inside then some directory else none) (!o.asks)

/-! ### Tests and actions -/

def delete (x : Visit) : Search Bool := do
  if x.path = ['.'] then return true
  let node := ((← perform Tool.view).files.root.at? x.location)
  let cause ← match node with
    | none => pure (some (.os .noEntry))
    | some (.directory _ (_ :: _)) => pure (some (.os .notEmpty))
    | some _ => perform (takeAway x.location)
  match cause with
  | none => return true
  | some cause =>
    perform Tool.flush
    perform (Tool.complain ("cannot delete ".toList ++ quotePlainly x.path ++ ": ".toList ++
      reason cause))
    modify ({ · with status := 1 })
    return false

def fits (pattern t : Text) (anyCase : Bool) : Bool :=
  if anyCase then Script.Pattern.fits (pattern.map Char.toLower) (t.map Char.toLower)
  else Script.Pattern.fits pattern t

def plainName (x : Visit) : Text := lastName x.path

/-- What a link leads to, looked at in the other way than the search does. -/
def otherNode (following : Following) (v : View) (x : Visit) : Node :=
  if following = .all then x.own
  else ((v.find x.path).toOption.map (·.2)).getD x.own

/-- Whether a test holds of a file; an action is carried out, and tells whether that was
possible. -/
def holds (x : Visit) (p : Primary) : Search Bool := do
  let v ← perform Tool.view
  let files := v.files
  let time : Int := files.modified x.node
  match p with
  | .constant b => return b
  | .name pattern anyCase => return fits pattern (plainName x) anyCase
  | .path pattern anyCase => return fits pattern x.path anyCase
  | .target pattern anyCase =>
    looking x <| return match x.node with
      | .link target | .handle _ target => fits pattern target.octets anyCase
      | _ => false
  | .regex r => return r.isWhole x.path
  | .kind letters beyond =>
    if !beyond then return letters.contains (Visit.letter x.node)
    else
      let following := (← read).manner.following
      looking x (return letters.contains (Visit.letter (otherNode following v x)))
  | .permissions how file directory =>
    looking x do
      let mode := files.mode x.node
      let asked := if x.node.isDirectory then directory else file
      return match how with
        | .exactly => mode == asked
        | .all => mode &&& asked == asked
        | .any => mode &&& asked != 0
  | .size c n unit => looking x (return c.holds ((files.size x.node + unit - 1) / unit : Nat) n)
  | .empty =>
    looking x do
      match x.node with
      | .directory _ children =>
        if files.mayRead x.node then return children.isEmpty
        else
          blame x.path (.os .accessDenied)
          return false
      | .file _ => return files.size x.node == 0
      | _ => return false
  | .links c n =>
    let l : Listing := { given := {}, files }
    looking x (return c.holds (l.links x.node) n)
  | .number c n => looking x (return c.holds (x.node.id?.getD 0 + 1000 : Nat) n)
  | .owner c n => looking x (return c.holds ownNumber n)
  | .ownerless => looking x (return false)
  | .newer limit => looking x (return decide (limit < time))
  | .older limit => looking x (return decide (time < limit))
  | .within limit length => looking x (return decide (limit < time ∧ time ≤ limit + length))
  | .same identity => looking x (return Reader.identityOf x.location x.node == identity)
  | .may bit =>
    if !x.reachable then return false
    return match v.find x.path with
      | .ok (_, node) => files.allows node bit
      | .error _ => false
  | .prune =>
    modify ({ · with pruned := true })
    return true
  | .quit =>
    modify ({ · with stopped := true })
    return true
  | .delete => delete x
  | .print sink ends =>
    emit sink (x.path ++ [ends])
    return true
  | .format sink pieces =>
    let write : Search Bool := do
      let zone := (← read).zone
      let shown := pieces.takeWhile fun piece => !(piece matches .stop)
      emit sink (shown.flatMap (Piece.render zone v x))
      return true
    if pieces.any Piece.looks then looking x write else write
  | .list sink =>
    looking x do
      emit sink (listLine (← read).zone v x).line
      return true
  | .run order => runOrder x order

/-- Whether a query holds of a file. Nothing more happens once the search is to stop. -/
def answer (x : Visit) : Query → Search Bool
  | .primary p => holds x p
  | .no q => do return !(← answer x q)
  | .both a b => do
    if !(← answer x a) ∨ (← get).stopped then return false
    answer x b
  | .either a b => do
    if (← answer x a) ∨ (← get).stopped then return true
    answer x b
  | .each a b => do
    let _ ← answer x a
    if (← get).stopped then return true
    answer x b

/-! ### Trees -/

/-- Looks at a name in a directory, or at a path that a search starts from. -/
def visitOf (start path : Text) (depth : Nat) (location : Location) (own : Node) (reachable : Bool) :
    Search Visit := do
  let following := (← read).manner.following
  let plain : Visit :=
    { path, start, depth, location, node := own, own, reachable }
  if own.isLink ∧ (following = .all ∨ (following = .starts ∧ depth = 0)) then
    match (← perform Tool.view).find path with
    | .ok (location, node) => return { plain with location, node }
    | .error _ => return plain
  else return plain

def ask (x : Visit) : Search Unit := do
  let plan ← read
  modify ({ · with told := false, pruned := false })
  if plan.manner.least ≤ x.depth ∧ !(← get).stopped then
    let _ ← answer x plan.query

/-- Goes through a tree; `around` are the directories on the way to it. -/
def walk : Nat → List (FileId × Text) → Visit → Search Unit
  | 0, _, _ => return ()
  | fuel + 1, around, x => do
    if (← get).stopped then return ()
    let manner := (← read).manner
    match x.node with
    | .directory id _ =>
      match around.lookup id with
      | some other =>
        perform Tool.flush
        perform (Tool.complain ("File system loop detected; ".toList ++ quotePlainly x.path ++
          " is part of the same file system loop as ".toList ++ quotePlainly other ++ ['.']))
        modify ({ · with status := 1 })
      | none =>
        if !manner.depthFirst then ask x
        let enters := manner.most.all (x.depth < ·) && (manner.depthFirst || !(← get).pruned)
        if enters ∧ !(← get).stopped then
          let v ← perform Tool.view
          match v.files.root.at? x.location with
          | some (.directory id children) =>
            let node : Node := .directory id children
            if !x.reachable ∨ !v.files.mayRead node then blame x.path (.os .accessDenied)
            else
              for (name, _) in children do
                if !(← get).stopped then
                  let files := (← perform Tool.view).files
                  match files.root.at? (x.location ++ [name]) with
                  | some own =>
                    let path := Path.within x.path name
                    let reachable := files.mayExecute node
                    let next ← visitOf x.start path (x.depth + 1) (x.location ++ [name]) own reachable
                    walk fuel ((id, x.path) :: around) next
                  | none => pure ()
          | _ => blame x.path (.os .noEntry)
        if manner.depthFirst then ask x
    | _ => ask x

def from1 (path : Text) : Search Unit := do
  if (← get).stopped then return ()
  let v ← perform Tool.view
  match v.entry path with
  | .error cause => blame path cause
  | .ok (.vacant _) => blame path (.os .noEntry)
  | .ok (.found location own) =>
    let (location, own) := if path.getLast? = some '/' then
        ((v.find path).toOption).getD (location, own)
      else (location, own)
    if path.getLast? = some '/' ∧ !own.isDirectory then blame path (.os .notDirectory)
    else walk depthLimit [] (← visitOf path path 0 location own true)

/-- Searches what all paths lead to, and ends with the status. -/
def run (paths : List Text) : Search Nat := do
  for path in paths do from1 path
  for (n, _) in (← get).batches do finishBatch n
  return (← get).status

end Search
end LineShell.Finding
