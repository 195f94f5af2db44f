import LineShell.Host.Utility.Records.Tokens

/-!
Reports from their text. An operator binds the more the higher its level is: levels 1 to 7 are those
of whole expressions, and levels 10 to 14 those of what is written side by side in them.
-/
namespace LineShell.Records
namespace Read

/-! ### Names -/

/-- The variable of a name, and where its kind is kept. -/
def lookUp (t : Text) : Read (Variable × Place) := do
  let r ← get
  match r.inside, r.parameters.idxOf? t with
  | some f, some i => return (.parameter i, (some f, i))
  | _, _ =>
    match r.names.idxOf? t with
    | some i => return (.common i, (none, i))
    | none =>
      set { r with names := r.names.push t, kinds := r.kinds.push .unknown }
      return (.common r.names.size, (none, r.names.size))

def kindAt (p : Place) : Read Kind := do
  let r ← get
  return match p with
    | (none, i) => (r.kinds[i]?).getD .unknown
    | (some f, i) => ((r.drafts[f]?).bind (·.parameters[i]?)).getD .unknown

def setKind (k : Kind) (p : Place) : Read Unit :=
  modify fun r =>
    match p with
    | (none, i) => { r with kinds := r.kinds.modify i fun _ => k }
    | (some f, i) => { r with drafts := r.drafts.modify f fun d =>
        { d with parameters := d.parameters.modify i fun _ => k } }

def describe (k : Kind) (p : Place) : Text :=
  (if p.1.isSome then "local ".toList else []) ++
    (if k = .array then "array".toList else "variable".toList)

/-- The variable of a name that is used as something of a kind. -/
def variableAs (k : Kind) (t : Text) : Read Variable := do
  let (v, p) ← lookUp t
  let known ← kindAt p
  if known = .unknown then setKind k p
  else if known ≠ k then
    complain ("illegal reference to ".toList ++ describe known p ++ ' ' :: t)
  return v

def arrayName : Read Variable := do
  match ← peek with
  | .name t =>
    skip
    variableAs .array t
  | _ => refuse

def expressionOf (t : Text) : Read Regex := do
  match readExpression t with
  | .ok r => return r
  | .error fault =>
    complain ("regular expression compile failed (".toList ++ fault.message ++ ")\n".toList ++ t)
    return .sequence []

/-- What an expression is where texts are matched with it. -/
def patternOf : Expr → Read Pattern
  | .matched r => return .fixed r
  | .text t => return .fixed (← expressionOf t)
  | e => return .computed e

/-! ### Operators -/

def operation? : Token → Option (Arithmetic × Nat)
  | .sign "+" => some (.sum, 10)
  | .sign "-" => some (.difference, 10)
  | .sign "*" => some (.product, 11)
  | .sign "/" => some (.quotient, 11)
  | .sign "%" => some (.remainder, 11)
  | .sign "^" => some (.power, 14)
  | _ => none

def relation? : Token → Option Relation
  | .sign "<" => some .less
  | .sign "<=" => some .lessOrEqual
  | .sign "==" => some .equal
  | .sign "!=" => some .different
  | .sign ">" => some .greater
  | .sign ">=" => some .greaterOrEqual
  | _ => none

def assignment? : Token → Option (Option Arithmetic)
  | .sign "=" => some none
  | .sign "+=" => some (some .sum)
  | .sign "-=" => some (some .difference)
  | .sign "*=" => some (some .product)
  | .sign "/=" => some (some .quotient)
  | .sign "%=" => some (some .remainder)
  | .sign "^=" => some (some .power)
  | _ => none

/-- Whether a token begins something that can stand behind something else. -/
def beginsOperand : Token → Bool
  | .number .. | .text _ | .pattern _ | .name _ | .function _ | .builtin _ | .field _ | .fieldCount =>
    true
  | .keyword t => ["getline", "length", "split", "match", "sub", "gsub"].any (·.toList == t)
  | .sign s => ["(", "!", "$", "++", "--"].contains s
  | _ => false

/-- Whether a token begins something that can be assigned to. -/
def beginsTarget : Token → Bool
  | .name _ | .field _ | .fieldCount => true
  | .sign s => s == "$" || s == "("
  | _ => false

def isSeparator : Token → Bool
  | .lineEnd | .semicolon | .implied => true
  | _ => false

/-- An expression, and whether it can be assigned to. -/
abbrev Operand := Expr × Bool

/-! ### Expressions -/

/-- Whether an expression is a field, or the number of them. -/
def isField : Expr → Bool
  | .value (.field _) | .value .fieldCount => true
  | _ => false

mutual

def expression : Nat → Nat → Read Expr
  | 0, _ => refuse
  | fuel + 1, level => do
    if ← acceptSign "(" then
      let first ← expression fuel 1
      if ← isNext "," then
        let keys ← moreExpressions fuel [first]
        expect ")"
        if !(← acceptKeyword "in") then refuse
        operators fuel level (.contains keys (← arrayName))
      else
        expect ")"
        expressionFrom fuel level (← suffixed (first, isField first))
    else expressionFrom fuel level (← primary fuel)

def expressionFrom : Nat → Nat → Operand → Read Expr
  | 0, _, _ => refuse
  | fuel + 1, level, (e, isTarget) => do
    match e, isTarget, assignment? (← peek) with
    | .value t, true, some operation =>
      skip
      operators fuel level (.assign t operation (← expression fuel 1))
    | _, _, _ => operators fuel level (← joined fuel (← calculations fuel 10 e))

/-- Goes on with operators of a level, or of a higher one. -/
def operators : Nat → Nat → Expr → Read Expr
  | 0, _, _ => refuse
  | fuel + 1, level, a => do
    let token ← peek
    match relation? token with
    | some r =>
      if 7 < level then return a
      skip
      operators fuel level (.relation r a (← expression fuel 8))
    | none =>
      if token = .sign "~" ∨ token = .sign "!~" then
        if 6 < level then return a
        skip
        let p ← patternOf (← expression fuel 7)
        operators fuel level (.matching a p (token == .sign "!~"))
      else if token = .keyword "in".toList then
        if 5 < level then return a
        skip
        operators fuel level (.contains [a] (← arrayName))
      else if token = .sign "&&" then
        if 4 < level then return a
        skip
        operators fuel level (.and a (← expression fuel 5))
      else if token = .sign "||" then
        if 3 < level then return a
        skip
        operators fuel level (.or a (← expression fuel 4))
      else if token = .sign "?" then
        if 2 < level then return a
        skip
        let b ← expression fuel 1
        expect ":"
        operators fuel level (.choice a b (← expression fuel 2))
      else return a

/-- Goes on with what is written behind an operand. -/
def joined : Nat → Expr → Read Expr
  | 0, _ => refuse
  | fuel + 1, a => do
    if beginsOperand (← peek) then joined fuel (.join a (← calculation fuel 10)) else return a

def calculation : Nat → Nat → Read Expr
  | 0, _ => refuse
  | fuel + 1, level => do calculations fuel level (← primary fuel).1

/-- Goes on with calculations of a level, or of a higher one. -/
def calculations : Nat → Nat → Expr → Read Expr
  | 0, _, _ => refuse
  | fuel + 1, level, a => do
    let token ← peek
    match operation? token with
    | some (operation, own) =>
      if own < level then return a
      skip
      let b ← calculation fuel (if own = 14 then 14 else own + 1)
      calculations fuel level (.arithmetic operation a b)
    | none =>
      if token = .sign "|" ∧ level ≤ 13 then
        skip
        if !(← acceptKeyword "getline") then refuse
        let t ← if beginsTarget (← peek) then some <$> target fuel else pure none
        calculations fuel level (.takeOf a t)
      else return a

def primary : Nat → Read Operand
  | 0 => refuse
  | fuel + 1 => do
    let token ← peek
    match token with
    | .number q _ =>
      skip
      return (.number q, false)
    | .text t =>
      skip
      return (.text t, false)
    | .pattern t =>
      skip
      return (.matched (← expressionOf t), false)
    | .name _ | .field _ | .fieldCount | .sign "$" => suffixed (.value (← target fuel), true)
    | .function t =>
      skip
      expect "("
      let arguments ← callArguments fuel
      return (← call t arguments, false)
    | .builtin t =>
      skip
      let arguments ← builtinArguments fuel t
      return (← builtin t arguments, false)
    | .keyword t => return (← special fuel t, false)
    | .sign "(" =>
      skip
      let e ← expression fuel 1
      expect ")"
      suffixed (e, isField e)
    | .sign s =>
      if s = "!" ∨ s = "-" ∨ s = "+" then
        skip
        let e ← calculation fuel 13
        return (if s = "!" then .not e else if s = "-" then .negative e else .numeric e, false)
      else if s = "++" ∨ s = "--" then
        skip
        return (.step (← target fuel) true (s == "++"), false)
      else refuse
    | _ => refuse

def target : Nat → Read Target
  | 0 => refuse
  | fuel + 1 => do
    match ← peek with
    | .name t =>
      skip
      namedTarget fuel t
    | .field n =>
      skip
      return .field (.number (.ofNat n))
    | .fieldCount =>
      skip
      return .fieldCount
    | .sign "$" =>
      skip
      match ← peek with
      | .name t =>
        skip
        return .field (.value (← namedTarget fuel t))
      | _ => return .field (← primary fuel).1
    | .sign "(" =>
      skip
      let t ← target fuel
      if !isField (.value t) then refuse
      expect ")"
      return t
    | _ => refuse

/-- A name, or an element of an array of that name. -/
def namedTarget : Nat → Text → Read Target
  | 0, _ => refuse
  | fuel + 1, t => do
    if ← acceptSign "[" then
      let v ← variableAs .array t
      let keys ← moreExpressions fuel [← expression fuel 1]
      expect "]"
      return .element v keys
    else return .plain (← variableAs .scalar t)

/-- More expressions behind commas; those before are given. -/
def moreExpressions : Nat → List Expr → Read (List Expr)
  | 0, _ => refuse
  | fuel + 1, found => do
    if ← acceptSign "," then moreExpressions fuel (found ++ [← expression fuel 1]) else return found

def special : Nat → Text → Read Expr
  | 0, _ => refuse
  | fuel + 1, t => do
    match String.ofList t with
    | "length" =>
      skip
      return .builtin .length []
    | "getline" =>
      skip
      modify ({ · with takes := true })
      let t ← if beginsTarget (← peek) then some <$> target fuel else pure none
      if (← peek) = .input then
        skip
        return .takeFrom (← calculation fuel 14) t
      else
        modify ({ · with takes := false })
        return .take t
    | "split" =>
      skip
      expect "("
      let e ← expression fuel 1
      expect ","
      let v ← arrayName
      let separator ← if ← acceptSign "," then
          let s ← expression fuel 1
          match s with
          | .text t => if t.length < 2 then pure (some (.computed s)) else some <$> patternOf s
          | _ => some <$> patternOf s
        else pure none
      expect ")"
      return .split e v separator
    | "match" =>
      skip
      expect "("
      let e ← expression fuel 1
      expect ","
      let p ← patternOf (← expression fuel 1)
      expect ")"
      return .locate e p
    | word =>
      if word ≠ "sub" ∧ word ≠ "gsub" then refuse
      skip
      expect "("
      let p ← patternOf (← expression fuel 1)
      expect ","
      let e ← expression fuel 1
      let t ← if ← acceptSign "," then target fuel else pure (.field (.number (.ofNat 0)))
      expect ")"
      return .substitute (word == "gsub") p e t

/-- The arguments of a call and the closing parenthesis; those that are names are marked. -/
def callArguments : Nat → Read (List (Expr × Option Place))
  | 0 => refuse
  | fuel + 1 => do
    if ← acceptSign ")" then return []
    let first ← argument fuel
    let rest ← moreArguments fuel
    return first :: rest

def moreArguments : Nat → Read (List (Expr × Option Place))
  | 0 => refuse
  | fuel + 1 => do
    if ← acceptSign "," then
      let next ← argument fuel
      let rest ← moreArguments fuel
      return next :: rest
    else
      expect ")"
      return []

/-- An argument of a call. A name by itself may turn out to stand for an array. -/
def argument : Nat → Read (Expr × Option Place)
  | 0 => refuse
  | fuel + 1 => do
    match ← peek with
    | .name t =>
      skip
      let next ← peek
      if next = .sign "," ∨ next = .sign ")" then
        let (v, p) ← lookUp t
        return (.value (.plain v), some p)
      else
        putBack (.name t)
        return (← expression fuel 1, none)
    | _ => return (← expression fuel 1, none)

/-- The arguments of a function that every report knows. -/
def builtinArguments : Nat → Text → Read (List Expr)
  | 0, _ => refuse
  | fuel + 1, t => do
    expect "("
    if ← acceptSign ")" then return []
    let arguments ← match ← peek with
      | .name name =>
        if t ≠ "length".toList then moreExpressions fuel [← expression fuel 1]
        else
          skip
          if ← isNext ")" then pure [.size (← lookUp name).1]
          else
            putBack (.name name)
            moreExpressions fuel [← expression fuel 1]
      | _ => moreExpressions fuel [← expression fuel 1]
    expect ")"
    return arguments

/-- Goes on with one more or one less behind something that can be assigned to. -/
def suffixed : Operand → Read Operand
  | (.value t, true) => do
    if ← acceptSign "++" then return (.step t false true, false)
    else if ← acceptSign "--" then return (.step t false false, false)
    else return (.value t, true)
  | operand => return operand

def call (t : Text) (arguments : List (Expr × Option Place)) : Read Expr := do
  let f := (← functionOf? t).getD 0
  let names := arguments.zipIdx.map fun ((_, place), i) => (i, place)
  modify fun r =>
    { r with calls :=
        { function := f, count := arguments.length, names, line := r.tokenLine } :: r.calls }
  return .call f (arguments.map (·.1))

def builtin (t : Text) (arguments : List Expr) : Read Expr := do
  match builtins.find? (·.1.toList == t), arguments with
  | some (_, .length, _, _), [.size v] => return .size v
  | some (_, f, least, most), arguments =>
    if arguments.length < least ∨ most < arguments.length then
      complain ("wrong number of arguments in call to ".toList ++ t)
    return .builtin f arguments
  | none, _ => refuse

end

/-! ### Statements -/

def separator : Read Unit := do
  if isSeparator (← peek) then
    skip
    modify ({ · with prints := false })
  else refuse

/-- Skips tokens behind a misplaced one as far as something can end there. -/
def recover : Nat → Read Unit
  | 0 => throw .given
  | fuel + 1 => do
    let goOn : Read Unit := modify ({ · with prints := false, takes := false, parentheses := 0 })
    match ← peek with
    | .finish => throw .given
    | .sign "\x7d" => goOn
    | token =>
      skip
      if isSeparator token then goOn else recover fuel

def printed (fuel : Nat) : Read (List Expr) := do
  let token ← peek
  if isSeparator token ∨ token matches .output _ then return []
  else if token ≠ .sign "(" then moreExpressions fuel [← expression fuel 1]
  else
    skip
    if ← acceptSign ")" then return []
    let first ← expression fuel 1
    if ← isNext "," then
      let all ← moreExpressions fuel [first]
      expect ")"
      if ← acceptKeyword "in" then
        let e ← operators fuel 1 (.contains all (← arrayName))
        moreExpressions fuel [e]
      else return all
    else
      expect ")"
      let e ← expressionFrom fuel 1 (← suffixed (first, isField first))
      moreExpressions fuel [e]

/-- A condition in parentheses, and the lines behind it. -/
def condition (fuel : Nat) : Read Expr := do
  expect "("
  let e ← expression fuel 1
  expect ")"
  skipLines
  return e

def inLoop {α : Type} (body : Read α) : Read α := do
  modify fun r => { r with loops := r.loops + 1 }
  let a ← body
  modify fun r => { r with loops := r.loops - 1 }
  return a

mutual

/-- A statement; if a token in it is misplaced nothing is left of it. -/
def statement : Nat → Read Statement
  | 0 => refuse
  | fuel + 1 => do
    let loops := (← get).loops
    try
      statementOf fuel
    catch stop =>
      if stop = .given then throw .given
      recover limit
      modify ({ · with loops })
      return .block []

def statementOf : Nat → Read Statement
  | 0 => refuse
  | fuel + 1 => do
    let token ← peek
    if isSeparator token then
      separator
      return .block []
    match token with
    | .sign "\x7b" => block fuel
    | .keyword t =>
      match String.ofList t with
      | "if" =>
        skip
        let c ← condition fuel
        let yes ← statement fuel
        if ← acceptKeyword "else" then
          skipLines
          return .branch c yes (some (← statement fuel))
        else return .branch c yes none
      | "while" =>
        skip
        let c ← condition fuel
        return .loop false (some c) none (← inLoop (statement fuel))
      | "do" =>
        skip
        skipLines
        let body ← inLoop (statement fuel)
        if !(← acceptKeyword "while") then refuse
        expect "("
        let c ← expression fuel 1
        expect ")"
        separator
        return .loop true (some c) none body
      | "for" =>
        skip
        forLoop fuel
      | "print" | "printf" =>
        skip
        modify ({ · with prints := true })
        let arguments ← printed fuel
        let output ← match ← peek with
          | .output outlet =>
            skip
            pure (some (outlet, ← expression fuel 1))
          | _ => pure none
        separator
        if t = "print".toList then return .print arguments output
        else
          if arguments.isEmpty then complain "no arguments in call to printf".toList
          return .printFormatted arguments output
      | "delete" =>
        skip
        let v ← arrayName
        let keys ← if ← acceptSign "[" then
            let keys ← moreExpressions fuel [← expression fuel 1]
            expect "]"
            pure (some keys)
          else pure none
        separator
        return .delete v keys
      | "exit" => return .exit (← result fuel)
      | "return" =>
        let e ← result fuel
        if (← get).inside.isNone then complain "return outside function body".toList
        return .giveBack e
      | "next" | "nextfile" =>
        skip
        separator
        if !(← get).isRule then complain ("improper use of ".toList ++ t)
        return if t = "next".toList then .nextRecord else .nextFile
      | "break" | "continue" =>
        skip
        separator
        if (← get).loops = 0 then complain (t ++ " statement outside of loop".toList)
        return if t = "break".toList then .leaveLoop else .nextRound
      | _ => plain fuel
    | _ => plain fuel

def plain : Nat → Read Statement
  | 0 => refuse
  | fuel + 1 => do
    let e ← expression fuel 1
    separator
    return .evaluate e

/-- What may be given to a statement behind its word. -/
def result : Nat → Read (Option Expr)
  | 0 => refuse
  | fuel + 1 => do
    skip
    let e ← if isSeparator (← peek) then pure none else some <$> expression fuel 1
    separator
    return e

def forLoop : Nat → Read Statement
  | 0 => refuse
  | fuel + 1 => do
    expect "("
    let key? ← match ← peek with
      | .name t =>
        skip
        if ← acceptKeyword "in" then pure (some t)
        else
          putBack (.name t)
          pure none
      | _ => pure none
    match key? with
    | some t =>
      let array ← arrayName
      expect ")"
      let v ← variableAs .scalar t
      skipLines
      return .forKeys v array (← inLoop (statement fuel))
    | none =>
      let first ← forPart fuel
      let c ← forPart fuel
      let step ← if ← isNext ")" then pure none else some <$> expression fuel 1
      expect ")"
      skipLines
      let body ← inLoop (statement fuel)
      let loop : Statement := .loop false c step body
      return match first with
        | some e => .block [.evaluate e, loop]
        | none => loop

/-- An expression that may be missing, and a semicolon. -/
def forPart : Nat → Read (Option Expr)
  | 0 => refuse
  | fuel + 1 => do
    let isEnd (token : Token) : Bool := token == .semicolon || token == .implied
    let e ← if isEnd (← peek) then pure none else some <$> expression fuel 1
    if isEnd (← peek) then skip else refuse
    return e

def block : Nat → Read Statement
  | 0 => refuse
  | fuel + 1 => do
    expect "\x7b"
    .block <$> statements fuel []

def statements : Nat → List Statement → Read (List Statement)
  | 0, _ => refuse
  | fuel + 1, found => do
    if ← acceptSign "\x7d" then return found.reverse
    let s ← statement fuel
    statements fuel (s :: found)

end

/-! ### The report -/

/-- Takes the parameters of a function as far as the closing parenthesis. -/
def parameterNames : Nat → List Text → Read (List Text)
  | 0, _ => refuse
  | fuel + 1, found => do
    match ← peek with
    | .name t =>
      skip
      if found.contains t then complain (t ++ " is duplicated in argument list".toList)
      if ← acceptSign "," then parameterNames fuel (t :: found)
      else
        expect ")"
        return (t :: found).reverse
    | _ => refuse

/-- The number of the function whose name comes next. -/
def functionName : Read Nat := do
  match ← peek with
  | .function t =>
    skip
    let f := (← functionOf? t).getD 0
    if ((← get).drafts[f]?).any (·.body.isSome) then
      complain ("redefinition of ".toList ++ t)
    return f
  | .name t =>
    skip
    if (← get).names.contains t then
      let (_, p) ← lookUp t
      complain ("illegal reference to ".toList ++ describe (← kindAt p) p ++ ' ' :: t)
    addFunction t
  | _ => refuse

def functionBody : Read Unit := do
  let f ← functionName
  expect "("
  let parameters ← if ← acceptSign ")" then pure [] else parameterNames limit []
  let start : Draft → Draft := fun d =>
    { d with parameters := Array.replicate parameters.length .unknown, body := some (.block []) }
  modify fun r =>
    { r with inside := some f, parameters, isRule := false, drafts := r.drafts.modify f start }
  skipLines
  let body ← block limit
  modify fun r =>
    { r with
      inside := none, parameters := [], isRule := true
      drafts := r.drafts.modify f fun d => { d with body := some body } }

/-- What is done before the first record, or behind the last. -/
def edge : Read Statement := do
  skip
  modify ({ · with isRule := false })
  let body ← block limit
  modify ({ · with isRule := true })
  return body

def rule : Read Rule := do
  if ← isNext "\x7b" then return { condition := .always, action := some (← block limit) }
  let first ← expression limit 1
  let condition ← if ← acceptSign "," then
      pure (.between first (← expression limit 1))
    else pure (Condition.when first)
  if ← isNext "\x7b" then return { condition, action := some (← block limit) }
  separator
  return { condition, action := none }

/-- Skips tokens behind a misplaced one as far as an opening brace. -/
def recoverOutside : Nat → Read Unit
  | 0 => throw .given
  | fuel + 1 => do
    match ← peek with
    | .finish => throw .given
    | .sign "\x7b" => return ()
    | _ =>
      skip
      recoverOutside fuel

def parts : Nat → Report → Read Report
  | 0, found => return found
  | fuel + 1, found => do
    let token ← peek
    if token = .finish then return found
    let found ← try
        if token = .keyword "BEGIN".toList then
          pure { found with atStart := found.atStart ++ [← edge] }
        else if token = .keyword "END".toList then
          pure { found with atEnd := found.atEnd ++ [← edge] }
        else if ← acceptKeyword "function" then
          functionBody
          pure found
        else pure { found with rules := found.rules ++ [← rule] }
      catch stop =>
        if stop = .given then throw .given
        modify fun r =>
          { r with inside := none, parameters := [], isRule := true, loops := 0 }
        recoverOutside limit
        let _ ← block limit
        pure found
    parts fuel found

/-! ### What names stand for -/

/-- Makes the arguments of calls and the parameters that they are for the same. -/
def settle : Nat → Read Unit
  | 0 => return ()
  | fuel + 1 => do
    let mut changed := false
    for c in (← get).calls do
      for (i, place) in c.names do
        if let some p := place then
          let parameter : Place := (some c.function, i)
          let known ← kindAt p
          let wanted ← kindAt parameter
          if known = .unknown ∧ wanted ≠ .unknown then
            setKind wanted p
            changed := true
          else if known ≠ .unknown ∧ wanted = .unknown then
            setKind known parameter
            changed := true
    if changed then settle fuel

def checkCalls : Read Unit := do
  let line := (← get).tokenLine
  for d in (← get).drafts do
    if d.body.isNone then complain ("function ".toList ++ d.name ++ " never defined".toList)
  for c in (← get).calls.reverse do
    if let some d := (← get).drafts[c.function]? then
      modify ({ · with tokenLine := c.line })
      if d.body.isSome then
        if d.parameters.size < c.count then
          complain ("too many arguments in call to ".toList ++ d.name)
        else
          for (i, place) in c.names do
            let actual ← match place with
              | some p => kindAt p
              | none => pure .scalar
            let wanted := (d.parameters[i]?).getD .unknown
            let isWrong := (actual = .array ∧ wanted = .scalar) ∨ (actual = .scalar ∧ wanted = .array)
            if isWrong then
              let name (k : Kind) : Text := describe k (some 0, 0)
              complain ("type error in arg(".toList ++ Text.decimal (i + 1) ++ ") in call to ".toList ++
                d.name ++ " (actual ".toList ++ name actual ++ " vs ".toList ++ name wanted ++ [')'])
  modify ({ · with tokenLine := line })

def report : Read Report := do
  skipLines
  let found ← parts limit {}
  let r ← get
  if r.complaints = [] then
    settle (r.calls.length * 8 + 8)
    checkCalls
  let r ← get
  let functions := r.drafts.map fun d =>
    { arrays := d.parameters.map (· == .array), body := d.body.getD (.block []) : Function }
  return { found with
    functions, functionNames := r.drafts.map (·.name)
    names := r.names, arrays := r.kinds.map (· == .array) }

end Read

/-- The report that texts write, of which the first may have no name; without any token there is
nothing to be done. Some names are known to be those of scalars. What is wrong is said in the
messages. -/
def readReport (scalars : List Text) (first : Option Text × Text) (later : List (Text × Text)) :
    Except (List Text) (Option Report) :=
  let ended (t : Text) : Text := t ++ ['\n']
  let known := Special.all.map fun s => (s.name.toList, if s.isArray then Kind.array else .scalar)
  let scalars := scalars.filter fun t => !known.any (·.1 == t)
  let names := known ++ scalars.eraseDups.map (·, Kind.scalar)
  let start : Reading :=
    { file := first.1, rest := ended first.2, later := later.map fun (name, t) => (name, ended t)
      names := (names.map (·.1)).toArray, kinds := (names.map (·.2)).toArray }
  let isEmpty : Bool := match Read.skipLines.run start with
    | .ok _ r => r.rest.isEmpty
    | .error _ _ => false
  if isEmpty then .ok none
  else
    match Read.report.run start with
    | .ok found r => if r.complaints = [] then .ok (some found) else .error r.complaints.reverse
    | .error _ r => .error r.complaints.reverse

end LineShell.Records
