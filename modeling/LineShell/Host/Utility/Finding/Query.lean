import LineShell.Host.FileSystem
import LineShell.Host.Number.Directive
import LineShell.Host.Regex.Parser

/-! What can be asked about the files of a tree, and what can be done with them. -/
namespace LineShell.Finding

/-- How a number is compared with another one. -/
inductive Comparison
  | exactly
  | more
  | less
  deriving DecidableEq

/-- Whether a comparison holds of a number and the one that was asked for. -/
def Comparison.holds (c : Comparison) (n asked : Int) : Bool :=
  match c with
  | .exactly => n == asked
  | .more => decide (asked < n)
  | .less => decide (n < asked)

/-- How many of some permissions a file has to have. -/
inductive Coverage
  | exactly
  | all
  | any
  deriving DecidableEq

/-- What one file is told from others by: a number, or where it is. -/
abbrev Identity := FileId ⊕ Location

inductive Piece
  | text (t : Text)
  /-- A letter stands for what is known about a file. -/
  | fact (d : Directive) (letter : Char)
  /-- A letter stands for a part of one of its times. -/
  | time (d : Directive) (letter : Char)
  /-- Nothing is written any more. -/
  | stop

/-- Where something is written to; without a descriptor to the output. -/
abbrev Destination := Option Nat

structure Order where
  words : List Text
  /-- It runs in the directory of the file. -/
  inside : Bool := false
  /-- It is asked for every file whether to. -/
  asks : Bool := false
  /-- Many files are given to it at once. Such orders have numbers. -/
  gathers : Option Nat := none

inductive Primary
  | constant (holds : Bool)
  /-- The last name fits a pattern. -/
  | name (pattern : Text) (anyCase : Bool)
  | path (pattern : Text) (anyCase : Bool)
  /-- Where a link leads fits a pattern. -/
  | target (pattern : Text) (anyCase : Bool)
  | regex (r : Regex)
  /-- What the file is; `beyond` looks at links the other way. -/
  | kind (letters : Text) (beyond : Bool)
  | permissions (how : Coverage) (file directory : Nat)
  | size (c : Comparison) (n unit : Nat)
  | empty
  | links (c : Comparison) (n : Nat)
  | number (c : Comparison) (n : Nat)
  | owner (c : Comparison) (n : Nat)
  /-- Nobody has the number of its owner. -/
  | ownerless
  | newer (time : Int)
  | older (time : Int)
  /-- Changed within so many nanoseconds after a time. -/
  | within (time length : Int)
  | same (identity : Identity)
  /-- The permission of a bit is there. -/
  | may (bit : Nat)
  | prune
  | quit
  | delete
  | print (sink : Destination) (ends : Char)
  | format (sink : Destination) (pieces : List Piece)
  | list (sink : Destination)
  | run (order : Order)

/-- Tests and actions as they are put together. -/
inductive Query
  | primary (p : Primary)
  | no (q : Query)
  | both (a b : Query)
  | either (a b : Query)
  /-- Both, whatever the first one gives. -/
  | each (a b : Query)

inductive Following
  | none
  /-- Those that a search starts from. -/
  | starts
  | all
  deriving DecidableEq

structure Manner where
  following : Following := .none
  least : Nat := 0
  most : Option Nat := Option.none
  /-- Directories come behind what is in them. -/
  depthFirst : Bool := false

end LineShell.Finding
