import LineShell.Text.Basic

/-! What can be wrong with a filter for messages, and how that is shown below its text. -/
namespace LineShell.LogSpec

/-- A place in the text of a filter. Lines and columns count from 1. -/
structure Point where
  line : Nat := 1
  column : Nat := 1
  deriving DecidableEq

def Point.past (p : Point) (c : Char) : Point :=
  if c = '\n' then ⟨p.line + 1, 1⟩ else { p with column := p.column + 1 }

structure Span where
  start : Point
  stop : Point
  deriving DecidableEq

/-- The ways in which a filter can be wrong. -/
inductive Cause
  | escapeInClass
  | rangeOrder
  | rangeBound
  | openClass
  | noNumber
  | badNumber
  | noDigits
  | noCharacter
  | badDigit
  | openEscape
  | unknownEscape
  | danglingMinus
  | repeatedFlag
  | repeatedMinus
  | openFlags
  | unknownFlag
  | repeatedName
  | emptyName
  | badName
  | openName
  | openGroup
  | noGroup
  | countOrder
  | noCount
  | openCount
  | nothingRepeated
  | openBoundary
  | unknownBoundary
  | openBrace
  | badProperty
  | reference
  | lookAround
  | notAllowed
  | noText
  | unknownProperty
  | unknownValue
  deriving DecidableEq

namespace Cause

def message : Cause → String
  | escapeInClass => "invalid escape sequence found in character class"
  | rangeOrder => "invalid character class range, the start must be <= the end"
  | rangeBound => "invalid range boundary, must be a literal"
  | openClass => "unclosed character class"
  | noNumber => "decimal literal empty"
  | badNumber => "decimal literal invalid"
  | noDigits => "hexadecimal literal empty"
  | noCharacter => "hexadecimal literal is not a Unicode scalar value"
  | badDigit => "invalid hexadecimal digit"
  | openEscape => "incomplete escape sequence, reached end of pattern prematurely"
  | unknownEscape => "unrecognized escape sequence"
  | danglingMinus => "dangling flag negation operator"
  | repeatedFlag => "duplicate flag"
  | repeatedMinus => "flag negation operator repeated"
  | openFlags => "expected flag but got end of regex"
  | unknownFlag => "unrecognized flag"
  | repeatedName => "duplicate capture group name"
  | emptyName => "empty capture group name"
  | badName => "invalid capture group character"
  | openName => "unclosed capture group name"
  | openGroup => "unclosed group"
  | noGroup => "unopened group"
  | countOrder => "invalid repetition count range, the start must be <= the end"
  | noCount => "repetition quantifier expects a valid decimal"
  | openCount => "unclosed counted repetition"
  | nothingRepeated => "repetition operator missing expression"
  | openBoundary =>
    "special word boundary assertion is either unclosed or contains an invalid character"
  | unknownBoundary => "unrecognized special word boundary assertion, valid choices are: " ++
      "start, end, start-half or end-half"
  | openBrace => "found either the beginning of a special word boundary or a bounded repetition " ++
      "on a \\b with an opening brace, but no closing brace"
  | badProperty => "invalid Unicode character class"
  | reference => "backreferences are not supported"
  | lookAround => "look-around, including look-ahead and look-behind, is not supported"
  | notAllowed => "Unicode not allowed here"
  | noText => "pattern can match invalid UTF-8"
  | unknownProperty => "Unicode property not found"
  | unknownValue => "Unicode property value not found"

end Cause

/-- What is wrong with a filter, where, and which other place that is in conflict with. -/
structure Fault where
  cause : Cause
  span : Span
  other : Option Span := none

namespace Fault

/-- The lines of a text. A newline at its end begins no other one. -/
def lines (t : Text) : List Text :=
  let parts := splitWhere (· == '\n') t
  let parts := if parts.getLast? = some [] then parts.dropLast else parts
  parts.map fun line => if line.getLast? = some '\r' then line.dropLast else line

def marks : Nat → List Span → Text
  | _, [] => []
  | column, s :: spans =>
    let space := List.replicate (s.start.column - column) ' '
    let n := max 1 (s.stop.column - s.start.column)
    space ++ List.replicate n '^' ++ marks (max column s.start.column + n) spans

def isBefore (a b : Span) : Bool :=
  a.start.line < b.start.line ||
    (a.start.line == b.start.line && a.start.column ≤ b.start.column)

def spans (f : Fault) : List Span :=
  match f.other with
  | none => [f.span]
  | some other => if isBefore f.span other then [f.span, other] else [other, f.span]

/-- The lines of a filter, each with marks below it where something is wrong. -/
def annotated (f : Fault) (pattern : Text) : Text :=
  let all := lines pattern
  let count := all.length + if pattern.getLast? = some '\n' then 1 else 0
  let width := if count ≤ 1 then 0 else (Text.decimal count).length
  let inLine := f.spans.filter fun s => s.start.line == s.stop.line
  (all.zipIdx 1).flatMap fun (line, n) =>
    let number := Text.decimal n
    let head := if width = 0 then List.replicate 4 ' '
      else List.replicate (width - number.length) ' ' ++ number ++ [':', ' ']
    let here := inLine.filter (·.start.line == n)
    Text.line (head ++ line) ++
      if here = [] then []
      else Text.line (List.replicate (if width = 0 then 4 else width + 2) ' ' ++ marks 1 here)

def extent (s : Span) : Text :=
  "on line ".toList ++ Text.decimal s.start.line ++ " (column ".toList ++
    Text.decimal s.start.column ++ ") through line ".toList ++ Text.decimal s.stop.line ++
    " (column ".toList ++ Text.decimal (s.stop.column - 1) ++ [')']

def report (f : Fault) (pattern : Text) : Text :=
  let divider := Text.line (List.replicate 79 '~')
  let long := f.spans.filter fun s => s.start.line != s.stop.line
  let body :=
    if !pattern.contains '\n' then f.annotated pattern
    else
      divider ++ f.annotated pattern ++ divider ++
        if long = [] then [] else (Text.joined ['\n'] (long.map extent)).line
  Text.line "regex parse error:".toList ++ body ++ "error: ".toList ++ f.cause.message.toList

end Fault
end LineShell.LogSpec
