import LineShell.Text.Basic

/-!
Scripts of the host's own shell: words with quotes and expansions in them, and commands of words.
-/
namespace LineShell.Script

mutual

/-- A part of a word. Text that is quoted, and what an expansion in double quotes gives, is neither
split nor matched against file names. -/
inductive Fragment
  | literal (text : Text) (quoted : Bool)
  | parameter (name : Text) (use : Use) (quoted : Bool)
  /-- What a script prints. -/
  | output (script : Command) (quoted : Bool)
  | arithmetic (expression : List Fragment) (quoted : Bool)

/-- What is made of the value of a parameter. Where `strict` holds, an empty value is none. -/
inductive Use
  | value
  | size
  | default (strict : Bool) (word : List Fragment)
  | assign (strict : Bool) (word : List Fragment)
  | require (strict : Bool) (message : List Fragment)
  | alternative (strict : Bool) (word : List Fragment)
  /-- Takes off what matches a pattern at an end. -/
  | trim (atEnd longest : Bool) (pattern : List Fragment)
  /-- A use that does not exist. -/
  | invalid

inductive Target
  | input (file : List Fragment)
  | output (file : List Fragment)
  | append (file : List Fragment)
  | both (file : List Fragment)
  /-- Another descriptor, or `-` for none. -/
  | descriptor (number : List Fragment)
  /-- The lines behind the command, kept under a number. -/
  | document (number : Nat)

/-- Which descriptor a redirection is for, and where it leads. -/
inductive Redirection
  | mk (descriptor : Nat) (target : Target)

inductive Command
  | nothing
  /-- A command of words, with the number of its line. -/
  | simple (line : Nat) (assignments words : List (List Fragment))
      (redirections : List Redirection)
  | redirected (line : Nat) (command : Command) (redirections : List Redirection)
  | subshell (line : Nat) (command : Command) (redirections : List Redirection)
  | pipeline (commands : List Command)
  | background (command : Command)
  | sequence (first second : Command)
  | and (first second : Command)
  | or (first second : Command)
  | negation (command : Command)
  | conditional (test body otherwise : Command)
  /-- Repeats the body as long as success of the test is as expected. -/
  | loop (test : Command) (expected : Bool) (body : Command)
  /-- Runs the body for each item. -/
  | each (line : Nat) (name : Text) (items : List (List Fragment)) (body : Command)
  /-- Runs the first command that has a pattern for the word. -/
  | choice (line : Nat) (word : List Fragment) (choices : List (List (List Fragment) × Command))
  | define (line : Nat) (name : Text) (body : Command)

end

abbrev Word := List Fragment

instance : Inhabited Command := ⟨.nothing⟩

/-- The words that mean something only where a command may begin. -/
def keywords : List Text :=
  ["!", "case", "do", "done", "elif", "else", "esac", "fi", "for", "if", "in", "then", "until",
    "while", "\x7b", "\x7d"].map String.toList

/-- The keywords that end the commands in front of them. -/
def closers : List Text :=
  ["do", "done", "elif", "else", "esac", "fi", "then", "\x7d"].map String.toList

inductive Token
  | endOfFile
  | newline
  | operator (text : Text)
  | keyword (text : Text)
  | redirection (descriptor : Nat) (operator : Text)
  | word (word : Word)

def Token.name : Token → Text
  | .endOfFile => "end of file".toList
  | .newline => "newline".toList
  | .operator text | .keyword text => '"' :: text ++ ['"']
  | .redirection .. => "redirection".toList
  | .word _ => "word".toList

/-- Whether the token ends the commands in front of it. -/
def Token.closes : Token → Bool
  | .endOfFile => true
  | .keyword text => closers.contains text
  | .operator text => text = [')'] ∨ text = [';', ';']
  | _ => false

def isNameStart (c : Char) : Bool := c.isAlpha || c == '_'

def isNameRest (c : Char) : Bool := c.isAlphanum || c == '_'

def isName : Text → Bool
  | [] => false
  | c :: rest => isNameStart c && rest.all isNameRest

def isSpecial (c : Char) : Bool := "!#$*-?@".toList.contains c || c.isDigit

/-- The text of a word that has no quotes and no expansions. -/
def plain? : Word → Option Text
  | [] => some []
  | [.literal text false] => some text
  | _ => none

/-- The name and the value of an assignment, where a word is one. -/
def assignment? : Word → Option (Text × Word)
  | .literal text false :: rest =>
    match Text.cut? '=' text with
    | some (name, value) =>
      if isName name then
        some (name, if value = [] then rest else .literal value false :: rest)
      else none
    | none => none
  | _ => none

end LineShell.Script
