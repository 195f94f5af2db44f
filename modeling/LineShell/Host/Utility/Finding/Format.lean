import LineShell.Host.Utility.Attributes
import LineShell.Host.Utility.Finding.Query

/-! What is known about a file that has been found, written by a format. -/
namespace LineShell.Finding

open Utility

structure Visit where
  path : Text
  /-- What the search started from. -/
  start : Text
  depth : Nat := 0
  location : Location
  /-- What is there, or what that leads to if links are followed. -/
  node : Node
  /-- What is there itself. -/
  own : Node
  /-- It can be looked at, and not only be named. -/
  reachable : Bool := true

namespace Visit

def name (v : Visit) : Text :=
  let stem := (v.path.reverse.dropWhile (· == '/')).reverse
  (splitWhere (· == '/') stem).getLast?.getD [] ++ v.path.drop stem.length

def directory (v : Visit) : Text :=
  match (v.path.reverse.dropWhile (· != '/')).reverse with
  | [] => ['.']
  | front => front.dropLast

def inner (v : Visit) : Text :=
  if v.depth = 0 then []
  else
    let rest := v.path.drop v.start.length
    if v.start.getLast? = some '/' then rest else rest.drop 1

def letter (node : Node) : Char := if kindLetter node = '-' then 'f' else kindLetter node

end Visit

namespace Piece

def factLetters : List Char := "abcdDfFgGhHiklmMnpPsStuUyY".toList

/-- Reads a character that is written behind a backslash; none if there is nothing like that. -/
def escape? : Text → Option (Piece × Text)
  | 'c' :: rest => some (.stop, rest)
  | c :: rest =>
    let digits := ((c :: rest).take 3).takeWhile fun c => '0' ≤ c && c ≤ '7'
    if digits ≠ [] then
      some (.text [Char.ofNat (Quantity.digitsValue 8 digits % 256)],
        (c :: rest).drop digits.length)
    else
      let known := [('a', '\x07'), ('b', '\x08'), ('f', '\x0c'), ('n', '\n'), ('r', '\r'),
        ('t', '\t'), ('v', '\x0b'), ('\\', '\\')]
      (known.lookup c).map fun value => (.text [value], rest)
  | [] => none

/-- Reads a format, and complains about what there is not. -/
def ofText : Nat → Text → Tool (List Piece)
  | 0, _ => return []
  | _ + 1, [] => return []
  | fuel + 1, '\\' :: rest => do
    match rest, escape? rest with
    | [], _ =>
      Tool.complain "warning: escape \x60\\' followed by nothing at all".toList
      return [.text ['\\']]
    | _, some (piece, rest) => return piece :: (← ofText fuel rest)
    | c :: rest, none =>
      Tool.complain ("warning: unrecognized escape \x60\\".toList ++ [c, '\''])
      return .text ['\\', c] :: (← ofText fuel rest)
  | fuel + 1, '%' :: rest => do
    let flags := rest.takeWhile "-+ #0".toList.contains
    let behind := rest.drop flags.length
    let width := behind.takeWhile Char.isDigit
    let behind := behind.drop width.length
    let places? := match behind with
      | '.' :: more => some (more.takeWhile Char.isDigit)
      | _ => none
    let behind := match places? with
      | some digits => behind.drop (digits.length + 1)
      | none => behind
    let d : Directive :=
      { flags, width := (Text.natural? width).getD 0
        precision := places?.map fun digits => (Text.natural? digits).getD 0 }
    match behind with
    | [] => Tool.refuse 1 "error: % at end of format string".toList
    | '%' :: more => return .text ['%'] :: (← ofText fuel more)
    | c :: more =>
      if "ACT".toList.contains c then
        match more with
        | [] =>
          Tool.complain ("warning: format directive \x60%".toList ++ c ::
            "' should be followed by another character".toList)
          return [.text ('%' :: rest)]
        | letter :: more => return .time d letter :: (← ofText fuel more)
      else if factLetters.contains c then return .fact d c :: (← ofText fuel more)
      else
        Tool.complain ("warning: unrecognized format directive \x60%".toList ++ [c, '\''])
        return .text ('%' :: rest.take (rest.length - more.length)) :: (← ofText fuel more)
  | fuel + 1, c :: rest => do
    let t := (c :: rest).takeWhile fun c => c != '%' && c != '\\'
    return .text t :: (← ofText fuel ((c :: rest).drop t.length))

/-- Whether writing a piece needs more than the path. -/
def looks : Piece → Bool
  | .fact _ letter => !"dfhHpPy".toList.contains letter
  | .time .. => true
  | _ => false

/-- Seconds with the fraction that files are stamped with. -/
def secondsOf (zone : Zone) (time : Int) (front : String) : Text :=
  DateText.format zone time (front ++ ".%N").toList ++ ['0']

def timePart (zone : Zone) (time : Int) (letter : Char) : Text :=
  match letter with
  | '@' => secondsOf zone time "%s"
  | 'S' => secondsOf zone time "%S"
  | 'T' | 'X' => secondsOf zone time "%H:%M:%S"
  | '+' => secondsOf zone time "%Y-%m-%d+%H:%M:%S"
  | c =>
    let t := DateText.format zone time ['%', c]
    if c ≠ '%' ∧ !c.isAlpha then ['%', c] else t

def fullTime (zone : Zone) (time : Int) : Text :=
  secondsOf zone time "%a %b %e %H:%M:%S" ++ DateText.format zone time " %Y".toList

def render (zone : Zone) (v : View) (x : Visit) : Piece → Text
  | .text t => t
  | .stop => []
  | .time d letter => d.text (timePart zone (v.files.modified x.node) letter)
  | .fact d letter =>
    let files := v.files
    let text (t : Text) : Text := d.text t
    let number (n : Nat) : Text := text (Text.decimal n)
    let l : Listing := { given := {}, files }
    match letter with
    | 'p' => text x.path
    | 'f' => text x.name
    | 'h' => text x.directory
    | 'P' => text x.inner
    | 'H' => text x.start
    | 'd' => d.signed x.depth
    | 's' => number (files.size x.node)
    | 'm' => { d with flags := d.flags.filter (· != '+') }.unsigned 'o' (files.mode x.node)
    | 'M' => text (modeLetters files x.node)
    | 'n' => number (l.links x.node)
    | 'l' =>
      match x.node with
      | .link target | .handle _ target => text target.octets
      | _ => text []
    | 'y' => text [Visit.letter x.node]
    | 'Y' =>
      if x.own.isLink then
        match v.find x.path with
        | .ok (_, node) => text [Visit.letter node]
        | .error (.os errno) => text [if errno = .tooManyLinks then 'L' else 'N']
        | .error _ => text ['?']
      else text [Visit.letter x.node]
    | 'u' | 'g' => text "root".toList
    | 'U' | 'G' => number 0
    | 'k' => number (l.blocks x.node)
    | 'b' => number (2 * l.blocks x.node)
    | 'i' => text (stateOf zone v x.path x.node 'i')
    | 'D' => text (stateOf zone v x.path x.node 'd')
    | 'F' => text "overlay".toList
    | 'S' =>
      let size := files.size x.node
      if size = 0 then text ['0']
      else text ({ precision := some 6 : Directive }.general 'e' 6
        (mkRat (1024 * l.blocks x.node) size))
    | _ => text (fullTime zone (files.modified x.node))

end Piece

def listLine (zone : Zone) (v : View) (x : Visit) : Text :=
  let files := v.files
  let l : Listing := { given := {}, files }
  let right (width : Nat) (t : Text) : Text := { width : Directive }.pad t
  let target := match x.node with
    | .link target | .handle _ target => " -> ".toList ++ escapeName target.octets
    | _ => []
  right 9 (stateOf zone v x.path x.node 'i') ++ ' ' :: right 6 (Text.decimal (l.blocks x.node)) ++
    ' ' :: modeLetters files x.node ++ ' ' :: right 3 (Text.decimal (l.links x.node)) ++
    " root     root     ".toList ++ right 8 (Text.decimal (files.size x.node)) ++ ' ' ::
    timeText zone (files.now / 1000000000) (files.modified x.node / 1000000000) ++ ' ' ::
    escapeName x.path ++ target

end LineShell.Finding
