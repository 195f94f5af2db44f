import LineShell.Host.Script.Syntax

/-! The text of a script while it is being read. -/
namespace LineShell.Script

/-- Why a script cannot be read, and in which line that shows. -/
structure Fault where
  line : Nat
  message : Text

/-- The text of an alias that is read before the text behind it. -/
structure Layer where
  text : Text
  name : Text
  /-- A blank at the end of an alias lets the word behind it be one too. -/
  passesOn : Bool

/-- A document that starts in the next line. -/
structure Pending where
  number : Nat
  mark : Text
  /-- Tabs in front of its lines are left out. -/
  stripped : Bool
  /-- Nothing in it is expanded. -/
  literal : Bool

/-- What is left of a text that commands are read from. -/
structure Source where
  text : Text
  /-- Where lines are to be shown as they are read, these are. -/
  shown : Bool := false
  line : Nat := 1
  layers : List Layer := []
  /-- Aliases that have just been read to their ends. -/
  finished : List Text := []
  /-- Whether the next word may be an alias wherever it stands. -/
  expectsAlias : Bool := false
  /-- A token that was looked at and not taken. -/
  returned : Option Token := none
  pending : List Pending := []
  /-- Whether a document is being read. -/
  inDocument : Bool := false
  /-- The documents that have been read, by number. -/
  documents : List (Nat × Word) := []
  aliases : List (Text × Text) := []

abbrev Parse := EStateM Fault Source

namespace Parse

def fail {α : Type} (message : Text) : Parse α := do
  throw ⟨(← get).line, "Syntax error: ".toList ++ message⟩

def unexpected {α : Type} (token : Token) (expected : Option Text) : Parse α :=
  let hint := match expected with
    | some text => " (expecting \"".toList ++ text ++ "\")".toList
    | none => []
  fail (token.name ++ " unexpected".toList ++ hint)

/-- Leaves the layers that have been read to their ends. -/
def Layer.leave : List Layer → Source → Source
  | ⟨[], name, passesOn⟩ :: rest, s =>
    Layer.leave rest
      { s with finished := name :: s.finished, expectsAlias := s.expectsAlias || passesOn }
  | layers, s => { s with layers }

def upcoming : Parse Text := modifyGet fun s =>
  let s := Layer.leave s.layers s
  (match s.layers with
    | [] => s.text
    | layer :: _ => layer.text, s)

/-- Takes characters, none of them a newline, off the upcoming text. -/
def skip (n : Nat) : Parse Unit := modify fun s =>
  if n = 0 then s
  else
    match s.layers with
    | [] => { s with text := s.text.drop n, finished := [] }
    | layer :: rest =>
      { s with layers := { layer with text := layer.text.drop n } :: rest, finished := [] }

def nextLine : Parse Unit := modify fun s => { s with line := s.line + 1 }

/-- How many characters the line ends that are hidden behind a backslash take up. -/
def hidden : Text → Nat
  | '\\' :: '\n' :: rest => hidden rest + 2
  | _ => 0

/-- The text from here on, without hidden line ends in front. -/
def look : Parse Text := do
  let n := hidden (← upcoming)
  if n = 0 then upcoming
  else
    skip n
    modify fun s => { s with line := s.line + n / 2 }
    upcoming

def take (c : Char) : Parse Unit := do
  skip 1
  if c = '\n' then nextLine

def isActive (s : Source) (name : Text) : Bool :=
  s.finished.contains name || s.layers.any (·.name == name)

def enter (name text : Text) : Parse Unit := modify fun s =>
  let passesOn := text.getLast? = some ' ' ∨ text.getLast? = some '\t'
  { s with layers := ⟨text, name, passesOn⟩ :: s.layers }

end Parse
end LineShell.Script
