import LineShell.Host.Utility.Basic

/-! Programs that deal with words and with what they are started with, not with files. -/
namespace LineShell.Utility

/-- As `echoEscape`; an `x` stands in front of one or two digits of base 16. -/
def wordEscape (t : Text) : Char × Nat :=
  let digits := ((t.drop 1).take 2).takeWhile (Quantity.digitValue · < 16)
  if t.head? = some 'x' ∧ digits ≠ [] then
    (Char.ofNat (Quantity.digitsValue 16 digits), digits.length + 1)
  else Script.Format.echoEscape t

/-- Prints its arguments. Escapes count only behind `-e`. -/
def echo : Tool Nat := do
  let isOption (t : Text) : Bool :=
    t.head? == some '-' && 1 < t.length && t.tail.all fun c => "neE".toList.contains c
  let arguments ← Tool.arguments
  let options := (arguments.takeWhile isOption).flatMap List.tail
  let words := arguments.dropWhile isOption
  let escapes := (options.reverse.find? (· != 'n')) == some 'e'
  let (t, stopped) :=
    if escapes then Script.Format.echoAll wordEscape words else (Text.joined [' '] words, false)
  Tool.print (if stopped || options.contains 'n' then t else t.line)
  return 0

def printWorkingDirectory : Tool Nat := do
  let g ← Known.given { letters := "LP", long := [("logical", 'L'), ("physical", 'P')] }
  if g.operands ≠ [] then Tool.complain "ignoring non-option arguments".toList
  let p ← Tool.process
  let files := (← Tool.view).files
  if p.directory.isGone then
    Tool.refuse 1 "couldn't find directory entry in '..' with matching i-node".toList
  let logical := (g.options.map (·.1)).getLast? == some 'L'
  Tool.printLine (if logical then Script.workingDirectory files p else p.directory.path.octets)
  return 0

/-- Prints the values of variables, or all variables. -/
def printEnvironment : Tool Nat := do
  let g ← Known.given { letters := "0", long := [("null", '0')], status := 2, mixed := false }
  let p ← Tool.process
  let ended (t : Text) : Text := t ++ [if g.has '0' then '\x00' else '\n']
  if g.operands = [] then
    for t in p.environment do Tool.print (ended t)
    return 0
  let values := g.operands.map p.value?
  for value in values.filterMap id do Tool.print (ended value)
  return if values.contains none then 1 else 0

/-- Cuts a line of options at its blanks, with quotes around what is not to be cut. -/
def cutWords : Option Char → Text → Text → List Text
  | _, [], word => if word = [] then [] else [word.reverse]
  | none, c :: rest, word =>
    if c = '"' ∨ c = '\'' then cutWords (some c) rest word
    else if isWhite c then
      if word = [] then cutWords none rest [] else word.reverse :: cutWords none rest []
    else cutWords none rest (c :: word)
  | some quote, c :: rest, word =>
    if c = quote then cutWords none rest word else cutWords (some quote) rest (c :: word)

/-- Gives a variable a value, in its old place if it has one. -/
def setVariable (environment : List Text) (name value : Text) : List Text :=
  let has (t : Text) : Bool := (Text.cut? '=' t).any (·.1 == name)
  let new := name ++ '=' :: value
  if environment.any has then environment.map fun t => if has t then new else t
  else environment ++ [new]

def unsetVariable (environment : List Text) (name : Text) : List Text :=
  environment.filter fun t => !(Text.cut? '=' t).any (·.1 == name)

def takeVariables (environment : List Text) : List Text → List Text × List Text
  | [] => (environment, [])
  | t :: rest =>
    match Text.cut? '=' t with
    | some (name, value) => takeVariables (setVariable environment name value) rest
    | none => (environment, t :: rest)

def programPaths (p : Process) (name : Text) : List Text :=
  if name.contains '/' then [name]
  else
    (splitWhere (· == ':') ((p.value? "PATH".toList).getD "/bin:/usr/bin".toList)).map fun entry =>
      if entry = [] then name else Path.within entry name

/-- Starts the first of these files that can be, in place of the program. -/
def startFirst (start : Script.Start) (arguments environment : List Text) (worst : IoError) :
    List Text → Activity IoError
  | [] => return worst
  | path :: rest => do
    let started (path : Text) (arguments : List Text) : Activity IoError := do
      match ← start path arguments environment with
      | .ok ending => Activity.halt ending
      | .error cause => return cause
    let shell := "/bin/sh".toList
    let cause ← started path arguments
    let cause ← if cause = .os .noExecFormat then started shell (shell :: path :: arguments.tail)
      else pure cause
    if cause = .os .accessDenied then startFirst start arguments environment cause rest
    else if cause = .os .noEntry ∨ cause = .os .notDirectory then
      startFirst start arguments environment worst rest
    else return cause

/-- Starts a command in place of the program; only a failure comes back. -/
def startCommand (start : Script.Start) (environment command : List Text) : Tool IoError := do
  Tool.flush
  if command.headD [] = [] then return .os .noEntry
  let paths := programPaths { ← Tool.process with environment } (command.headD [])
  Tool.act (startFirst start command environment (.os .noEntry) paths)

/-- Starts a command with other variables, or prints those. -/
def withEnvironment (start : Script.Start) : Tool Nat := do
  let known : Known :=
    { letters := "i0v", valued := "uS", status := 125, mixed := false,
      long := [("ignore-environment", 'i'), ("null", '0'), ("unset", 'u'), ("split-string", 'S')] }
  let g ← known.given
  let split := (g.value? 'S').getD []
  let more ← known.read Known.letterLimit (cutWords none split [] ++ g.operands) {}
  let options := g.options ++ more.options
  let operands := more.operands
  let p ← Tool.process
  let (ignores, operands) := match operands with
    | ['-'] :: rest => (true, rest)
    | operands => (options.any (·.1 == 'i'), operands)
  let kept := if ignores then [] else p.environment
  let kept := options.foldl
    (fun kept (c, value) => if c = 'u' then unsetVariable kept value else kept) kept
  let (environment, command) := takeVariables kept operands
  match command with
  | [] =>
    for t in environment do
      Tool.print (t ++ [if options.any (·.1 == '0') then '\x00' else '\n'])
    return 0
  | name :: _ =>
    let cause ← startCommand start environment command
    Tool.complain (quotePlainly name ++ ": ".toList ++ reason cause)
    if cause ≠ .os .noEntry then return 126
    if name.any isWhite then
      Tool.complain "use -[v]S to pass options in shebang lines".toList
    return 127

/-- The name without the slashes behind it; a name of slashes only stays one. -/
def withoutEndSlashes (t : Text) : Text :=
  match (t.reverse.dropWhile (· == '/')).reverse with
  | [] => t.take 1
  | t => t

def lastName (t : Text) : Text :=
  let t := withoutEndSlashes t
  if t = ['/'] then t else (splitWhere (· == '/') t).getLast?.getD []

def directoryName (t : Text) : Text :=
  let t := withoutEndSlashes t
  if !t.contains '/' then ['.']
  else if t = ['/'] then t
  else
    match (t.reverse.dropWhile (· != '/')).reverse with
    | [] => ['.']
    | front => withoutEndSlashes front

/-- Prints the last name of a path, without an ending. -/
def baseName : Tool Nat := do
  let g ← Known.givenOperands
    { letters := "a", valued := "s", long := [("multiple", 'a'), ("suffix", 's')], mixed := false }
  let strip (ending t : Text) : Text :=
    if ending.isSuffixOf t ∧ ending ≠ t then t.take (t.length - ending.length) else t
  let many := g.has 'a' || g.has 's'
  match many, g.operands with
  | false, [name, ending] => Tool.printLine (strip ending (lastName name))
  | false, _ :: _ :: extra :: _ =>
    Tool.misuse 1 ("extra operand ".toList ++ quotePlainly extra)
  | _, names =>
    for name in names do Tool.printLine (strip ((g.value? 's').getD []) (lastName name))
  return 0

/-- Prints the part of a path before its last name. -/
def printDirectoryName : Tool Nat := do
  let g ← Known.givenOperands { mixed := false }
  for name in g.operands do Tool.printLine (directoryName name)
  return 0

def integer? : Text → Option Int
  | '-' :: t => (Text.natural? t).map fun n => -(n : Int)
  | '+' :: t => (Text.natural? t).map fun n => (n : Int)
  | t => (Text.natural? t).map fun n => (n : Int)

/-- An amount of time in nanoseconds: digits, perhaps with a point among them, and a unit. -/
def interval? (t : Text) : Option Nat :=
  let (factor, digits) := match t.getLast? with
    | some 's' => (1, t.dropLast)
    | some 'm' => (60, t.dropLast)
    | some 'h' => (3600, t.dropLast)
    | some 'd' => (86400, t.dropLast)
    | _ => (1, t)
  match splitWhere (· == '.') digits with
  | [whole] => (Text.natural? whole).map (· * factor * 1000000000)
  | [whole, fraction] =>
    if (whole ++ fraction).all Char.isDigit ∧ whole ++ fraction ≠ [] then
      let n := ((whole ++ fraction).foldl (fun n c => n * 10 + (c.toNat - '0'.toNat)) 0) * factor
      some (n * 1000000000 / Nat.pow 10 fraction.length)
    else none
  | _ => none

def sleep : Tool Nat := do
  let g ← Known.givenOperands { mixed := false }
  let wrong := g.operands.filter fun t => t != "infinity".toList && (interval? t).isNone
  let complaint (t : Text) : Text := "invalid time interval ".toList ++ quotePlainly t
  for t in wrong.dropLast do Tool.complain (complaint t)
  match wrong.getLast? with
  | some t => Tool.misuse 1 (complaint t)
  | none =>
    let forever := Nat.pow 10 18
    Tool.act (.sleep (sumOf (g.operands.map fun t => (interval? t).getD forever)))
    return 0

def locate : Tool Nat := do
  let g ← Known.given { letters := "a", status := 2 }
  let p ← Tool.process
  let v ← Tool.view
  for name in g.operands do
    let isProgram (path : Text) : Bool := v.files.isExecutable v.directory ⟨path⟩
    let found := (programPaths p name).filter isProgram
    if found = [] then modify ({ · with status := 1 })
    for path in if g.has 'a' then found else found.take 1 do Tool.printLine path
  return if g.operands = [] then 1 else 0

end LineShell.Utility
