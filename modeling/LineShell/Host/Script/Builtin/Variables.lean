import LineShell.Host.Script.Builtin.Basic

/-! Commands on variables, arguments and aliases. -/
namespace LineShell.Script.Builtin

def checkName (name : Text) : Step Unit := do
  if !isName name then Step.fail (name ++ ": bad variable name".toList)

/-- The variables, sorted by name, as commands that set them again. -/
def listVariables (word : Text) (shown : Variable → Bool) : Step Unit := do
  let found := (← get).known.filter fun (_, v) => shown v
  for (name, v) in found.mergeSort fun a b => Text.isAtMost a.1 b.1 do
    let start := if word = [] then [] else word ++ [' ']
    let value := match v.value with
      | some value => '=' :: quote value
      | none => []
    Step.printLine (start ++ name ++ value)

/-- Marks variables, which may be given a value on the way; without any lists those marked. -/
def declare (word : String) (marked : Variable → Bool) (mark : Variable → Variable)
    (arguments : List Text) : Step Nat := do
  let (letters, operands) ← options "p" arguments
  if operands = [] ∨ letters ≠ [] then listVariables word.toList marked
  else
    for operand in operands do
      let name := operand.takeWhile (· != '=')
      checkName name
      match Text.cut? '=' operand with
      | some (name, value) => Step.assign name value
      | none => pure ()
      modify fun m => m.put name (mark ((m.get? name).getD ⟨none, false, false⟩))
  return 0

/-- Hands variables to the programs that are started. -/
def exportNames : List Text → Step Nat :=
  declare "export" Variable.exported ({ · with exported := true })

def fixNames : List Text → Step Nat :=
  declare "readonly" Variable.fixed ({ · with fixed := true })

def unsetNames (arguments : List Text) : Step Nat := do
  let (letters, operands) ← options "vf" arguments
  for name in operands do
    if letters.getLast? = some 'f' then
      modify fun m => { m with functions := m.functions.filter (·.1 != name) }
    else
      checkName name
      if ((← get).get? name).any Variable.fixed then
        Step.fail (name ++ ": is read only".toList)
      else modify (Machine.remove · name)
  return 0

def keepNames (arguments : List Text) : Step Nat := do
  if (← get).locals.isEmpty then Step.fail "not in a function".toList
  else
    for operand in arguments do
      let name := operand.takeWhile (· != '=')
      checkName name
      Step.keep name
      match Text.cut? '=' operand with
      | some (name, value) => Step.assign name value
      | none => pure ()
    return 0

def turn (on : Bool) (letter : Char) : Step Unit := modify fun m =>
  let others := m.options.filter (· != letter)
  { m with options := if on then letter :: others else others }

/-- Lists the options, for reading or as commands that set them again. -/
def listOptions (readable : Bool) : Step Unit := do
  let m ← get
  if readable then Step.printLine "Current option settings".toList
  for (letter, name) in Machine.optionNames do
    let state := m.has letter
    if readable then
      let space := List.replicate (16 - name.length) ' '
      Step.printLine (name.toList ++ space ++ (if state then "on" else "off").toList)
    else
      let sign := if state then "set -o " else "set +o "
      Step.printLine (sign.toList ++ name.toList)

/-- Reads options such as `-eu` and `+o name` in front of arguments; the flag says whether `--` or
`-` ended them. -/
def setOptions : Nat → List Text → Step (List Text × Bool)
  | 0, arguments => return (arguments, false)
  | n + 1, arguments => do
    match arguments with
    | ['-', '-'] :: rest => return (rest, true)
    | ['-'] :: rest => do
      turn false 'x'
      turn false 'v'
      return (rest, true)
    | (sign :: c :: letters) :: rest =>
      if sign ≠ '-' ∧ sign ≠ '+' then return (arguments, false)
      else
        let on := sign == '-'
        let continued := if letters = [] then rest else (sign :: letters) :: rest
        if c = 'o' then
          match rest with
          | [] =>
            listOptions on
            return ([], false)
          | name :: rest =>
            match Machine.optionNames.find? fun (_, known) => known.toList == name with
            | some (letter, _) => turn on letter
            | none => Step.fail ("Illegal option ".toList ++ sign :: "o ".toList ++ name)
            setOptions n (if letters = [] then rest else (sign :: letters) :: rest)
        else if Machine.optionNames.any fun (letter, _) => letter == c then
          turn on c
          setOptions n continued
        else Step.fail ("Illegal option ".toList ++ [sign, c])
    | _ => return (arguments, false)

/-- Sets options and parameters, or lists the variables. -/
def setParameters (arguments : List Text) : Step Nat := do
  if arguments = [] then listVariables [] fun v => v.value.isSome
  else
    let (rest, ended) ← setOptions 1000 arguments
    if ended ∨ rest ≠ [] then modify ({ · with parameters := rest, optionOffset := 0 })
  return 0

def shiftParameters (arguments : List Text) : Step Nat := do
  let n ← match arguments with
    | [] => pure 1
    | t :: _ => number t
  let m ← get
  if m.parameters.length < n then Step.fail "can't shift that many".toList
  else
    modify fun m => { m with parameters := m.parameters.drop n, optionOffset := 0 }
    return 0

/-- Reads the next option letter of the words: the letter, how many words have been read, how much
of the next word, and the value. The first word is number 1. -/
def nextOption (letters : Text) (words : List Text) (index offset : Nat) :
    Option (Char × Nat × Nat × Option Text × Option Text) :=
  let quiet := letters.head? = some ':'
  let current := if index ≤ 1 ∨ offset = 0 then [] else ((words[index - 2]?).getD []).drop offset
  let start : Option (Text × Nat) :=
    if current ≠ [] then some (current, index)
    else
      match words[index - 1]? with
      | some ('-' :: c :: rest) =>
        if c = '-' ∧ rest = [] then none else some (c :: rest, index + 1)
      | _ => none
  match start with
  | none => none
  | some ([], _) => none
  | some (c :: rest, index) =>
    let length := ((words[index - 2]?).getD []).length
    let offset := if rest = [] then 0 else length - rest.length
    match (letters.dropWhile (· != c)).tail, letters.contains c && c != ':' with
    | _, false =>
      if quiet then some ('?', index, offset, some [c], none)
      else some ('?', index, offset, none, some ("Illegal option -".toList ++ [c]))
    | ':' :: _, true =>
      match rest, words[index - 1]? with
      | [], none =>
        if quiet then some (':', index, 0, some [c], none)
        else some ('?', index, 0, none, some ("No arg for -".toList ++ c :: " option".toList))
      | [], some value => some (c, index + 1, 0, some value, none)
      | value, _ => some (c, index, 0, some value, none)
    | _, true => some (c, index, offset, some [], none)

def getopts (arguments : List Text) : Step Nat := do
  match arguments with
  | letters :: name :: given =>
    let m ← get
    let words := if given = [] then m.parameters else given
    let index := ((m.value? "OPTIND".toList).bind Text.natural?).getD 1
    let setNumber (n : Nat) : Step Unit := Step.assign "OPTIND".toList (Text.decimal n)
    match nextOption letters words (max index 1) m.optionOffset with
    | some (c, index, offset, value, complaint) =>
      match complaint with
      | some message => Step.tell message
      | none => pure ()
      match value with
      | some value => Step.assign "OPTARG".toList value
      | none => modify (Machine.remove · "OPTARG".toList)
      setNumber index
      modify ({ · with optionOffset := offset })
      Step.assign name [c]
      return 0
    | none =>
      let index := max index 1
      let ends := words[index - 1]? == some ['-', '-']
      setNumber (if ends then index + 1 else index)
      Step.assign name ['?']
      return 1
  | _ => Step.fail "Usage: getopts optstring var [arg]".toList

def aliasText (name text : Text) : Text := name ++ '=' :: quote text

def defineAliases (arguments : List Text) : Step Nat := do
  if arguments = [] then
    for (name, text) in (← get).aliases do Step.printLine (aliasText name text)
    return 0
  else
    let mut status := 0
    for t in arguments do
      match t with
      | c :: rest =>
        match Text.cut? '=' rest with
        | some (name, text) =>
          modify fun m => { m with
            aliases := (c :: name, text) :: m.aliases.filter (·.1 != c :: name) }
        | none =>
          match (← get).aliases.lookup t with
          | some text => Step.printLine (aliasText t text)
          | none =>
            Step.tell ("alias: ".toList ++ t ++ " not found".toList)
            status := 1
      | [] =>
        Step.tell "alias:  not found".toList
        status := 1
    return status

def removeAliases (arguments : List Text) : Step Nat := do
  let (letters, operands) ← options "a" arguments
  if letters ≠ [] then
    modify ({ · with aliases := [] })
    return 0
  else
    let mut status := 0
    for name in operands do
      if ((← get).aliases.lookup name).isSome then
        modify fun m => { m with aliases := m.aliases.filter (·.1 != name) }
      else
        Step.tell ("unalias: ".toList ++ name ++ " not found".toList)
        status := 1
    return status

end LineShell.Script.Builtin
