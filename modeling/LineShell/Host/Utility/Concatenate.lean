import LineShell.Host.Utility.Basic

/-! Programs that copy text, whole or line by line. -/
namespace LineShell.Utility

/-- The lines of a text, each with its newline; the last may lack one. -/
def linesOf (t : Text) : List Text :=
  let parts := splitWhere (· == '\n') t
  let last := parts.getLast?.getD []
  parts.dropLast.map Text.line ++ (if last = [] then [] else [last])

def bare (line : Text) : Text := if line.getLast? = some '\n' then line.dropLast else line

def padded (width n : Nat) : Text :=
  let ds := Text.decimal n
  List.replicate (width - ds.length) ' ' ++ ds

/-- The names of inputs; without any the standard input is meant. -/
def inputNames (names : List Text) : List Text := if names = [] then [['-']] else names

/-- Blames the program for an input that cannot be read. -/
def blameInput (status : Nat) (name : Text) (cause : IoError) : Tool Unit :=
  Tool.blame status (quoteIfNeeded name ++ ": ".toList ++ reason cause)

/-- Goes through the lines of some inputs, as long as the step wants more. -/
def eachLine {σ : Type} (status : Nat) (step : σ → Text → Tool (ForInStep σ)) :
    List Text → σ → Tool σ
  | [], state => return state
  | name :: names, state => do
    match ← Feed.ofName name with
    | .error cause =>
      blameInput status name cause
      eachLine status step names state
    | .ok feed =>
      let (state, feed) ← feed.foldLines state step
      feed.close
      match feed.failure? with
      | some errno => blameInput status name (.os errno)
      | none => pure ()
      eachLine status step names state

/-- The text of each input, after complaints about those that cannot be read. -/
def readAll (status : Nat) (names : List Text) : Tool Text := do
  let mut all := []
  for name in inputNames names do
    match ← Tool.content name with
    | .ok t => all := t :: all
    | .error cause => blameInput status name cause
  return all.reverse.flatten

/-! ### `cat` -/

/-- What `cat` has to remember from one line to the next. -/
structure Layout where
  /-- The number of the last line that was numbered. -/
  number : Nat := 0
  /-- How many empty lines came last. -/
  blanks : Nat := 0
  /-- Whether a line begins here. -/
  fresh : Bool := true

def visible (tabs : Bool) (c : Char) : Text :=
  let shown (n : Nat) : Text :=
    if n < 32 then ['^', Char.ofNat (n + 64)]
    else if n = 127 then ['^', '?']
    else [Char.ofNat n]
  if c = '\t' then (if tabs then ['^', 'I'] else [c])
  else if c.toNat < 128 then shown c.toNat
  else 'M' :: '-' :: shown (c.toNat - 128)

def layOut (g : Given) (l : Layout) (line : Text) : Text × Layout :=
  let isBlank := l.fresh && line == ['\n']
  let blanks := if isBlank then l.blanks + 1 else 0
  let fresh := line.getLast? = some '\n'
  if g.has 's' ∧ 1 < blanks then ([], { l with blanks, fresh })
  else
    let counts := l.fresh && (g.has 'n' && !g.has 'b' || g.has 'b' && !isBlank)
    let number := if counts then l.number + 1 else l.number
    let front := if counts then padded 6 number ++ ['\t'] else []
    let all := g.has 'A'
    let shows := all || g.has 'v' || g.has 'e' || g.has 't'
    let tabs := all || g.has 'T' || g.has 't'
    let body := (bare line).flatMap fun c =>
      if shows then visible tabs c else if tabs ∧ c = '\t' then ['^', 'I'] else [c]
    let ends := if fresh then
        (if all || g.has 'E' || g.has 'e' then ['$', '\n'] else ['\n']) else []
    (front ++ body ++ ends, { number, blanks, fresh })

def inputFile? (name : Text) : Tool (Option FileId) := do
  if name = ['-'] then
    match ((← Tool.act .system).file? (← Tool.process) 0).map OpenFile.source with
    | some (.stored id) => return some id
    | _ => return none
  else
    match (← Tool.view).node? name with
    | some (.file id) => return some id
    | _ => return none

/-- The stored file that the output goes to, and the place in it where the next byte goes. -/
def outputFile? : Tool (Option (FileId × Nat)) := do
  let s ← Tool.act .system
  match s.file? (← Tool.process) 1 with
  | some { source := .stored id, offset, append, .. } =>
    return some (id, if append then (s.content (.stored id)).length else offset)
  | _ => return none

/-- Whether an input is the file that the output goes to. -/
def isOutput (name : Text) : Tool Bool := do
  match ← inputFile? name, ← outputFile? with
  | some input, some (output, _) => return input == output
  | _, _ => return false

/-- Whether an input is a file that the output is being added to. -/
def isGrowing (name : Text) : Tool Bool := do
  return (← isOutput name) && (← outputFile?).any (0 < ·.2)

def catUnit : Nat := 131072

/-- Copies files, or the input where none is named, to the output. -/
def concatenate : Tool Nat := do
  let g ← Known.given
    { letters := "AbeEnstTuv"
      long := [("show-all", 'A'), ("number-nonblank", 'b'), ("show-ends", 'E'), ("number", 'n'),
        ("squeeze-blank", 's'), ("show-tabs", 'T'), ("show-nonprinting", 'v')] }
  if ((← Tool.process).descriptors.lookup 1).isNone then
    Tool.refuse 1 ("standard output: ".toList ++ Errno.text .badDescriptor)
  let plain := g.options.all (·.1 == 'u')
  let mut layout : Layout := {}
  for name in inputNames g.operands do
    if ← isGrowing name then
      Tool.blame 1 (quoteIfNeeded name ++ ": input file is output file".toList)
      continue
    match ← Feed.ofName name with
    | .error cause => blameInput 1 name cause
    | .ok feed =>
      let feed := { feed with unit := catUnit }
      let step (l : Layout) (t : Text) : Tool Layout := do
        if plain then Tool.print t
        Tool.flush
        match (← get).lost with
        | some errno =>
          modify ({ · with lost := none })
          Tool.refuse 1 ("write error: ".toList ++ errno.text)
        | none => return l
      let feed ← if plain then
          (·.2) <$> Feed.foldBlocks step Activity.readLimit layout feed
        else do
          let (l, feed) ← feed.foldLines layout fun l line => do
            let (t, l) := layOut g l line
            Tool.print t
            return .yield l
          layout := l
          pure feed
      feed.close
      match feed.failure? with
      | some errno => blameInput 1 name (.os errno)
      | none => pure ()
  return 0

/-! ### Others -/

def reverseLines : Tool Nat := do
  let g ← Known.given
    { letters := "br", valued := "s"
      long := [("before", 'b'), ("regex", 'r'), ("separator", 's')] }
  let mark := ((g.value? 's').getD ['\n']).headD '\x00'
  for name in inputNames g.operands do
    match ← Tool.content name with
    | .ok t =>
      let parts := splitWhere (· == mark) t
      let last := parts.getLast?.getD []
      if g.has 'b' then
        let marked := parts.headD [] :: parts.tail.map (mark :: ·)
        Tool.print marked.reverse.flatten
      else
        let marked := parts.dropLast.map (· ++ [mark]) ++ (if last = [] then [] else [last])
        Tool.print marked.reverse.flatten
    | .error cause =>
      if cause = .os .isDirectory then
        Tool.blame 1 (quoteIfNeeded name ++ ": read error: ".toList ++ reason cause)
      else
        Tool.blame 1
          ("failed to open ".toList ++ quote name ++ " for reading: ".toList ++ reason cause)
  return 0

def reverseCharacters : Tool Nat := do
  let g ← Known.given {}
  let step (_ : Unit) (line : Text) : Tool (ForInStep Unit) := do
    let ends := line.getLast? = some '\n'
    Tool.print ((bare line).reverse ++ if ends then ['\n'] else [])
    return .yield ()
  for name in if g.operands = [] then [none] else g.operands.map some do
    match ← name.elim (pure (.ok {})) fun name => Feed.ofFile name with
    | .error cause =>
      Tool.blame 1 ("cannot open ".toList ++ name.getD [] ++ ": ".toList ++ reason cause)
    | .ok feed =>
      let ((), feed) ← feed.foldLines () step
      feed.close
  return 0

def tee : Tool Nat := do
  let g ← Known.given { letters := "aip", long := [("append", 'a'), ("ignore-interrupts", 'i')] }
  if g.has 'i' then Tool.act (.alter fun p => { p with ignored := 2 :: p.ignored })
  let mut opened : List (Text × Nat) := []
  for name in g.operands do
    match ← Tool.act (.openForWriting name (.write (g.has 'a'))) with
    | .error cause => blameInput 1 name cause
    | .ok descriptor => opened := opened ++ [(name, descriptor)]
  let step (lost : List Text) (t : Text) : Tool (List Text) := do
    Tool.print t
    Tool.flush
    let mut lost := lost
    for (name, descriptor) in opened do
      if !lost.contains name then
        match ← Tool.act (.write descriptor t) with
        | some errno =>
          blameInput 1 name (.os errno)
          lost := name :: lost
        | none => pure ()
    return lost
  let (_, feed) ← Feed.foldBlocks step Activity.readLimit [] { unit := 8192 }
  match feed.failure? with
  | some errno => Tool.blame 1 ("read error: ".toList ++ errno.text)
  | none => pure ()
  match (← get).lost with
  | some errno =>
    modify ({ · with lost := none })
    Tool.blame 1 ("'standard output': ".toList ++ errno.text)
  | none => pure ()
  return 0

def sayYes : Tool Nat := do
  let g ← Known.given {}
  let line := if g.operands = [] then ['y'] else Text.joined [' '] g.operands
  let block := (List.replicate (max 1 (8192 / (line.length + 1))) (Text.line line)).flatten
  let rec go : Nat → Tool Nat
    | 0 => return 0
    | fuel + 1 => do
      match ← Tool.act (.write 1 block) with
      | none => go fuel
      | some errno => Tool.refuse 1 ("standard output: ".toList ++ errno.text)
  go Activity.readLimit

end LineShell.Utility
