import LineShell.Host.Regex.Basic
import LineShell.Host.Utility.Records.Value

/-! Reports: what is done with the records of a text, which are chosen by conditions. -/
namespace LineShell.Records

inductive Arithmetic
  | sum
  | difference
  | product
  | quotient
  | remainder
  | power

/-- Something with a name: one for the whole report, or a parameter of a function. -/
inductive Variable
  | common (number : Nat)
  | parameter (number : Nat)
  deriving DecidableEq

/-- The variables that mean something to the report itself. -/
inductive Special
  | recordNumber
  | fileRecordNumber
  | fieldSeparator
  | recordSeparator
  | outputSeparator
  | outputEnd
  | keySeparator
  | numberFormat
  | printFormat
  | matchStart
  | matchLength
  | fileName
  | argumentCount
  | arguments
  | environment
  deriving DecidableEq

namespace Special

def all : List Special :=
  [recordNumber, fileRecordNumber, fieldSeparator, recordSeparator, outputSeparator, outputEnd,
    keySeparator, numberFormat, printFormat, matchStart, matchLength, fileName, argumentCount,
    arguments, environment]

def name : Special → String
  | recordNumber => "NR"
  | fileRecordNumber => "FNR"
  | fieldSeparator => "FS"
  | recordSeparator => "RS"
  | outputSeparator => "OFS"
  | outputEnd => "ORS"
  | keySeparator => "SUBSEP"
  | numberFormat => "CONVFMT"
  | printFormat => "OFMT"
  | matchStart => "RSTART"
  | matchLength => "RLENGTH"
  | fileName => "FILENAME"
  | argumentCount => "ARGC"
  | arguments => "ARGV"
  | environment => "ENVIRON"

def isArray : Special → Bool
  | arguments | environment => true
  | _ => false

def number (s : Special) : Nat := all.idxOf s

end Special

/-- The functions that every report knows. -/
inductive Builtin
  | sin
  | cos
  | atan2
  | exp
  | log
  | int
  | sqrt
  | random
  | seed
  | index
  | substring
  | formatted
  | length
  | close
  | system
  | toUpper
  | toLower
  | flush
  | time
  | formattedTime
  | timeOf
  deriving DecidableEq

/-- The functions by name, with the least and the greatest number of their arguments. -/
def builtins : List (String × Builtin × Nat × Nat) :=
  [("index", .index, 2, 2), ("substr", .substring, 2, 3), ("sprintf", .formatted, 1, 255),
    ("length", .length, 0, 1), ("sin", .sin, 1, 1), ("cos", .cos, 1, 1), ("atan2", .atan2, 2, 2),
    ("exp", .exp, 1, 1), ("log", .log, 1, 1), ("int", .int, 1, 1), ("sqrt", .sqrt, 1, 1),
    ("rand", .random, 0, 0), ("srand", .seed, 0, 1), ("close", .close, 1, 1),
    ("system", .system, 1, 1), ("toupper", .toUpper, 1, 1), ("tolower", .toLower, 1, 1),
    ("fflush", .flush, 0, 1), ("systime", .time, 0, 0), ("strftime", .formattedTime, 0, 3),
    ("mktime", .timeOf, 1, 1)]

mutual

inductive Expr
  | number (q : Quantity)
  | text (t : Text)
  /-- Whether the record matches. -/
  | matched (p : Regex)
  | value (t : Target)
  | assign (t : Target) (operation : Option Arithmetic) (e : Expr)
  /-- One more or one less, and the value before or behind that. -/
  | step (t : Target) (isBefore up : Bool)
  | arithmetic (operation : Arithmetic) (a b : Expr)
  | negative (e : Expr)
  | numeric (e : Expr)
  | not (e : Expr)
  | join (a b : Expr)
  | relation (r : Relation) (a b : Expr)
  | matching (e : Expr) (p : Pattern) (isNegated : Bool)
  | and (a b : Expr)
  | or (a b : Expr)
  | choice (c a b : Expr)
  /-- Whether there is a value for a key. -/
  | contains (keys : List Expr) (array : Variable)
  | call (function : Nat) (arguments : List Expr)
  | builtin (f : Builtin) (arguments : List Expr)
  /-- How many values an array has, or how long a text is. -/
  | size (v : Variable)
  /-- Takes the next record of the input. -/
  | take (t : Option Target)
  /-- Takes the next record of a file. -/
  | takeFrom (file : Expr) (t : Option Target)
  /-- Takes the next record that a command prints. -/
  | takeOf (command : Expr) (t : Option Target)
  | split (e : Expr) (array : Variable) (separator : Option Pattern)
  | substitute (everywhere : Bool) (p : Pattern) (replacement : Expr) (t : Target)
  /-- Where a text matches. -/
  | locate (e : Expr) (p : Pattern)

inductive Target
  | plain (v : Variable)
  | element (array : Variable) (keys : List Expr)
  | field (e : Expr)
  /-- The number of fields. -/
  | fieldCount

/-- An expression that texts match: one that is known, or the text of one. -/
inductive Pattern
  | fixed (r : Regex)
  | computed (e : Expr)

end

instance : Inhabited Expr := ⟨.text []⟩

inductive Outlet
  | replace
  | append
  | pipe
  deriving DecidableEq

inductive Statement
  | evaluate (e : Expr)
  | print (arguments : List Expr) (output : Option (Outlet × Expr))
  | printFormatted (arguments : List Expr) (output : Option (Outlet × Expr))
  | branch (c : Expr) (yes : Statement) (no : Option Statement)
  /-- As long as a condition holds, which may be asked for the first time behind the first round. -/
  | loop (isTestedLast : Bool) (c : Option Expr) (step : Option Expr) (body : Statement)
  /-- For every key. -/
  | forKeys (v : Variable) (array : Variable) (body : Statement)
  | block (parts : List Statement)
  | delete (array : Variable) (keys : Option (List Expr))
  | nextRecord
  | nextFile
  | exit (status : Option Expr)
  | giveBack (value : Option Expr)
  | leaveLoop
  | nextRound

/-- The records that something is done with. -/
inductive Condition
  | always
  | when (e : Expr)
  /-- From a record that one condition holds for to one that another holds for. -/
  | between (first last : Expr)

/-- Something that is done with some records; without more to it they are printed. -/
structure Rule where
  condition : Condition
  action : Option Statement

structure Function where
  /-- Which parameters have values by key. -/
  arrays : Array Bool
  body : Statement

structure Report where
  atStart : List Statement := []
  rules : List Rule := []
  atEnd : List Statement := []
  functions : Array Function := #[]
  functionNames : Array Text := #[]
  /-- The names of the common variables, and which have values by key. -/
  names : Array Text := #[]
  arrays : Array Bool := #[]

end LineShell.Records
