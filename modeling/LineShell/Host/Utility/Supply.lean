import LineShell.Host.Utility.Running

/-! `xargs`: commands that are given the words of the input as arguments. -/
namespace LineShell.Supply

open Utility

/-- What the input is made into, and how much of it a command gets. -/
structure Rules where
  /-- What ends an argument; without it they are words in which quotes count. -/
  mark : Option Char := none
  /-- A word that nothing is read behind. -/
  last : Option Text := none
  /-- What stands for a line in the arguments of a command. -/
  pattern : Option Text := none
  /-- How many lines and how many arguments a command gets; there is no limit of zero. -/
  lines : Nat := 0
  arguments : Nat := 0
  /-- How many bytes a command may have. -/
  room : Nat := 131072
  /-- It is a mistake if a command has no room for what it is to get. -/
  strict : Bool := false
  /-- Commands are shown, or asked about. -/
  shows : Bool := false
  asks : Bool := false
  /-- Without an argument there is no command. -/
  waits : Bool := false
  /-- How many commands run at once; any number if it is zero. -/
  atOnce : Nat := 1
  /-- A file to read in place of the input. -/
  source : Option Text := none
  /-- Commands read from the terminal. -/
  terminal : Bool := false
  /-- The variable for the number of the place that a command runs in. -/
  slot : Option Text := none
  start : Script.Start

/-- What has been read, and what has come of it. -/
structure Stock where
  feed : Feed
  /-- Nothing more is read. -/
  isOver : Bool := false
  /-- It has been said that a character cannot be passed on. -/
  warned : Bool := false
  /-- The command with its arguments; the last one comes first. -/
  words : List Text := []
  /-- How many bytes these are. -/
  size : Nat := 0
  /-- What every command begins with, and how many bytes that is. -/
  front : List Text := []
  frontSize : Nat := 0
  /-- How many lines there are among the arguments. -/
  lines : Nat := 0
  started : Nat := 0
  /-- The commands that run, with their places and names. -/
  running : List (Nat × Nat × Text) := []
  status : Nat := 0

abbrev Supplier := ReaderT Rules (StateT Stock Tool)

def perform {α : Type} (tool : Tool α) : Supplier α := fun _ s => do return (← tool, s)

/-! ### Commands -/

/-- Ends when all commands have ended. One that failed counts more than the given status. -/
def leave {α : Type} (status : Nat) : Supplier α := do
  for (id, _) in (← get).running do
    if (← perform (Tool.act (.join id))) ≠ .exited 0 then modify ({ · with status := 123 })
  let own := (← get).status
  perform (Tool.stop (if own = 0 then status else own))

def refuse {α : Type} (status : Nat) (message : Text) : Supplier α := do
  perform (Tool.complain message)
  leave status

/-- Waits for a command, and ends if that wants so. -/
def finish (id : Nat) (name : Text) : Supplier Unit := do
  let ending ← perform (Tool.act (.join id))
  modify fun s => { s with running := s.running.filter (·.1 != id) }
  match ending with
  | .exited 0 => return ()
  | .exited code =>
    if code = 255 then refuse 124 (name ++ ": exited with status 255; aborting".toList)
    modify ({ · with status := 123 })
  | .signalled n => refuse 125 (name ++ ": terminated by signal ".toList ++ Text.decimal n)

/-- Waits until fewer than so many commands run; those that have ended already are noticed. -/
def settle (limit : Nat) : Nat → Supplier Unit
  | 0 => return ()
  | fuel + 1 => do
    let running := (← get).running
    if limit ≤ running.length ∧ running ≠ [] then
      perform <| Tool.act <| Activity.await
        { ready := fun s => running.any fun (id, _) => (s.ending? id).isSome }
    let system ← perform (Tool.act .system)
    match running.find? fun (id, _) => (system.ending? id).isSome with
    | none => return ()
    | some (id, _, name) =>
      finish id name
      settle limit fuel

def freePlace (running : List (Nat × Nat × Text)) : Nat :=
  ((List.range (running.length + 1)).find? fun n => running.all (·.2.1 != n)).getD 0

/-- Shows a command, and says whether it is wanted. -/
def isWanted (command : List Text) : Supplier Bool := do
  let rules ← read
  let line := Text.joined [' '] (command.map quoteIfNeeded)
  if rules.asks then
    perform Tool.flush
    let _ ← perform (Tool.act (.write 2 line))
    match ← perform (Feed.ofFile "/dev/tty".toList) with
    | .error cause =>
      refuse 1 ("failed to open /dev/tty for reading: ".toList ++ reason cause)
    | .ok feed =>
      let _ ← perform (Tool.act (.write 2 "?...".toList))
      let (answer, feed) ← perform feed.line
      perform feed.close
      return (answer.getD []).head?.any fun c => c == 'y' || c == 'Y'
  else
    if rules.shows then perform (Tool.tell line)
    return true

/-- What the process of a command does. Without arguments of its own it could not start the
command. -/
def begin (rules : Rules) (command environment : List Text) : Tool Nat := do
  if rules.terminal then
    match ← Tool.act (.openForReading "/dev/tty".toList) with
    | .ok descriptor => Tool.act (do Activity.attach 0 (← Activity.fileOf descriptor))
    | .error cause => Tool.refuse 1 ("'/dev/tty': ".toList ++ reason cause)
  else if rules.source.isNone then
    let file : OpenFile := { source := .device .null, path := .ofText "/dev/null".toList }
    let number ← Tool.act (.update (System.addFile · file))
    Tool.act (.attach 0 number)
  let cause ← startCommand rules.start environment command
  Tool.complain (command.headD [] ++ ": ".toList ++ reason cause)
  Tool.act (.alter ({ · with arguments := [] }))
  return startFailure cause

/-- Runs the command with the arguments that there are. -/
def run : Supplier Unit := do
  let rules ← read
  let command := (← get).words.reverse
  modify fun s => { s with words := s.front, size := s.frontSize, started := s.started + 1 }
  let fuel := (← get).running.length + 1
  if rules.atOnce ≠ 0 then settle rules.atOnce fuel
  if ← isWanted command then
    settle fuel fuel
    perform Tool.flush
    let place := freePlace (← get).running
    let p ← perform Tool.process
    let environment := match rules.slot with
      | some name => setVariable p.environment name (Text.decimal place)
      | none => p.environment
    let id ← perform (Tool.act (.fork (Tool.finish 1 (begin rules command environment))))
    perform <| Tool.act <| Activity.await
      { ready := fun s => ((s.process? id).all fun child => child.arguments != p.arguments) ||
          (s.ending? id).isSome }
    let system ← perform (Tool.act .system)
    if (system.process? id).any (·.arguments.isEmpty) then
      match ← perform (Tool.act (.join id)) with
      | .exited code => leave code.toNat
      | .signalled _ => leave 126
    modify fun s => { s with running := s.running ++ [(id, place, command.headD [])] }

/-- Whether the command has as many arguments as it may get. -/
def isFull : Supplier Bool := do
  let limit := (← read).arguments
  let s ← get
  return limit ≠ 0 && s.words.length == s.front.length + limit

/-- Adds an argument, and runs the command before that if there is no room, or behind it if the
command is full. -/
def push (isFront : Bool) (word : Text) : Supplier Unit := do
  let rules ← read
  let s ← get
  if rules.room < s.size + word.length + 1 then
    if isFront ∨ s.words.length = s.front.length then
      refuse 1 "cannot fit single argument within argument list size limit".toList
    if rules.pattern.isSome ∨ (rules.strict ∧ (rules.lines ≠ 0 ∨ rules.arguments ≠ 0)) then
      refuse 1 "argument list too long".toList
    run
  let word := word.takeWhile (· != '\x00')
  modify fun s => { s with words := word :: s.words, size := s.size + word.length + 1 }
  if isFront then modify fun s => { s with frontSize := s.size }
  else if ← isFull then run

/-- Runs the command before the program ends with a complaint. -/
def runLast : Supplier Unit := do
  let rules ← read
  let s ← get
  if rules.pattern.isNone ∧ !rules.strict ∧ s.words.length ≠ s.front.length then run

/-! ### Reading -/

/-- Where in the input a character stands. -/
inductive Place
  | gap
  | word
  | quoted (mark : Char)
  | escaped

def next : Supplier (Option Char) := do
  let s ← get
  match s.feed.buffer with
  | c :: rest =>
    set { s with feed := { s.feed with buffer := rest } }
    return some c
  | [] =>
    if s.feed.ended.isSome then return none
    let feed ← perform s.feed.more
    match feed.buffer with
    | c :: rest =>
      set { s with feed := { feed with buffer := rest } }
      return some c
    | [] =>
      set { s with feed }
      return none

def refuseQuote {α : Type} (mark : Char) : Supplier α := do
  runLast
  refuse 1 ("unmatched ".toList ++ (if mark = '"' then "double" else "single").toList ++
    " quote; by default quotes are special to xargs unless you use the -0 option".toList)

def refuseLength {α : Type} : Supplier α := do
  runLast
  refuse 1 "argument line too long".toList

def longest : Supplier Nat := do return (← read).room - (← get).frontSize - 1

/-- Takes an argument, unless a line as a whole is meant to become a part of arguments. -/
def accept (word : Text) : Supplier Unit := do
  if (← read).pattern.isNone then push false word

/-- Reads words as far as the end of a line, and gives the last one. `before` is the character in
front, `isFirst` says that no word has been read yet, and the characters of the word stand in
reverse. -/
def words : Nat → Place → Option Char → Bool → Text → Supplier (Option Text)
  | 0, _, _, _, _ => return none
  | fuel + 1, place, before, isFirst, found => do
    let rules ← read
    let isLast := rules.last == some found.reverse
    match ← next with
    | none =>
      modify ({ · with isOver := true })
      if found = [] then return none
      if let .quoted mark := place then refuseQuote mark
      if isFirst ∧ isLast then return none
      accept found.reverse
      return some found.reverse
    | some c =>
      let keep : Supplier (Option Text) := do
        if c = '\x00' ∧ !(← get).warned then
          perform (Tool.complain ("WARNING: a NUL character occurred in the input.  It cannot be " ++
            "passed through in the argument list.  Did you mean to use the --null option?").toList)
          modify ({ · with warned := true })
        if (← longest) ≤ found.length then refuseLength
        words fuel (match place with
          | .quoted mark => .quoted mark
          | _ => .word) (some c) isFirst (c :: found)
      let finish : Supplier (Option Text) := do
        if isLast then
          modify ({ · with isOver := true })
          return if isFirst then none else some found.reverse
        accept found.reverse
        return some found.reverse
      match place with
      | .escaped => keep
      | .quoted mark =>
        if c = '\n' then refuseQuote mark
        if c = mark then words fuel .word (some c) isFirst found else keep
      | .gap | .word =>
        if place matches .gap ∧ isWhite c then words fuel .gap (some c) isFirst found
        else if c = '\n' then
          if before ≠ some ' ' ∧ before ≠ some '\t' then
            modify fun s => { s with lines := s.lines + 1 }
          finish
        else if rules.pattern.isNone ∧ (c = ' ' ∨ c = '\t') then
          let result ← finish
          if isLast then return result
          words fuel .gap (some c) false []
        else if c = '\\' then words fuel .escaped (some c) isFirst found
        else if c = '"' ∨ c = '\'' then words fuel (.quoted c) (some c) isFirst found
        else keep

def piece (mark : Char) : Nat → Text → Supplier (Option Text)
  | 0, _ => return none
  | fuel + 1, found => do
    match ← next with
    | none =>
      modify ({ · with isOver := true })
      if found = [] then return none
      accept found.reverse
      return some found.reverse
    | some c =>
      if c = mark then
        modify fun s => { s with lines := s.lines + 1 }
        accept found.reverse
        return some found.reverse
      else
        if (← longest) ≤ found.length then refuseLength
        piece mark fuel (c :: found)

def take : Supplier (Option Text) := do
  if (← get).isOver then return none
  match (← read).mark with
  | some mark => piece mark Activity.readLimit []
  | none => words Activity.readLimit .gap none true []

/-! ### All of it -/

/-- Puts a line in the place of a pattern; `room` is how much may come of it. -/
def insert (pattern line : Text) : Nat → Nat → Text → Option Text
  | 0, _, t => if t = [] then some [] else none
  | fuel + 1, room, t =>
    let front := frontOf t
    if room ≤ front.length then (if t = [] then some [] else none)
    else
      let room := room - front.length
      let rest := t.drop front.length
      if front.length = t.length ∧ !(pattern.isPrefixOf rest ∧ t ≠ []) then some front
      else if room ≤ line.length then (if rest = [] then some front else none)
      else
        let rest := rest.drop pattern.length
        if rest = [] then some (front ++ line)
        else (insert pattern line fuel (room - line.length) rest).map (front ++ line ++ ·)
where
  /-- What stands in front of the pattern, or everything. -/
  frontOf : Text → Text
    | [] => []
    | c :: rest => if pattern.isPrefixOf (c :: rest) then [] else c :: frontOf rest

/-- Runs a command for every line, which stands for a pattern in the arguments. -/
def runForLines (command : List Text) (pattern : Text) : Nat → Bool → Supplier Unit
  | 0, _ => return ()
  | fuel + 1, isFirst => do
    match ← take with
    | none => return ()
    | some line =>
      modify ({ · with words := [], size := 0 })
      push isFirst (command.headD [])
      for t in command.tail do
        let room := (← read).room - 1
        match insert pattern line (room + 1) room t with
        | some word => push false word
        | none => refuse 1 "command too long".toList
      run
      runForLines command pattern fuel false

/-- Runs a command with as many words of the input as it may get, again and again. -/
def runForWords : Nat → Supplier Unit
  | 0 => return ()
  | fuel + 1 => do
    match ← take with
    | none =>
      let s ← get
      if s.words.length ≠ s.front.length ∨ (!(← read).waits ∧ s.started = 0) then run
    | some _ =>
      let limit := (← read).lines
      if limit ≠ 0 ∧ limit ≤ (← get).lines then
        run
        modify ({ · with lines := 0 })
      runForWords fuel

def all (command : List Text) : Supplier Nat := do
  match (← read).pattern with
  | some pattern => runForLines command pattern Activity.readLimit true
  | none =>
    for t in command do push true t
    modify fun s => { s with front := s.words }
    runForWords Activity.readLimit
  let s ← get
  if s.feed.descriptor = 0 ∧ s.feed.failure?.isSome then
    refuse 1 "error closing file".toList
  leave 0

/-! ### What the options say -/

/-- A number that an option has, within bounds; without a message it is brought within these. -/
def numberOf (letter : Char) (t : Text) (least : Int) (most : Option Int) (isStrict : Bool) :
    Tool Int := do
  let wrong (n : Int) (message : Text) : Tool Int := do
    if isStrict then Tool.misuse 1 message else Tool.complain message
    return n
  let front := "value ".toList ++ t ++ " for -".toList ++ letter :: " option should be ".toList
  match integer? (t.dropWhile isWhite) with
  | none => Tool.misuse 1 ("invalid number \"".toList ++ t ++ "\" for -".toList ++ letter ::
      " option".toList)
  | some n =>
    if n < least then wrong least (front ++ ">= ".toList ++ Text.signed least)
    else
      match most with
      | some most => if most < n then wrong most (front ++ "<= ".toList ++ Text.signed most) else return n
      | none => return n

def markOf (t : Text) : Tool Char := do
  let wrong {α : Type} (message : Text) : Tool α :=
    Tool.refuse 1 ("Invalid escape sequence ".toList ++ t ++ " in input delimiter specification".toList ++
      message)
  match t with
  | [c] => return c
  | ['\\', c] =>
    let known := [('a', '\x07'), ('b', '\x08'), ('f', '\x0c'), ('n', '\n'), ('r', '\r'),
      ('t', '\t'), ('v', '\x0b'), ('\\', '\\')]
    match known.lookup c with
    | some mark => return mark
    | none =>
      if c = 'x' then return '\x00'
      if '0' ≤ c ∧ c ≤ '7' then return Char.ofNat (c.toNat - '0'.toNat)
      wrong ".".toList
  | '\\' :: c :: rest =>
    let (base, digits, limit) ← (if c = 'x' then pure (16, rest, "ff")
      else if '0' ≤ c ∧ c ≤ '7' then pure (8, c :: rest, "377")
      else wrong ".".toList : Tool (Nat × Text × String))
    let front := digits.takeWhile (Quantity.digitValue · < base)
    let value := Quantity.digitsValue base front
    if 255 < value then
      wrong ("; character values must not exceed ".toList ++ limit.toList ++ ['.'])
    if front.length < digits.length then
      wrong ("; trailing characters ".toList ++ digits.drop front.length ++ " not recognised.".toList)
    return Char.ofNat value
  | _ =>
    Tool.refuse 1 ("Invalid input delimiter specification ".toList ++ t ++ (": the delimiter must be " ++
      "either a single character or an escape sequence starting with \\.").toList)

/-- Says that an option makes another one meaningless. -/
def overrule (option other : String) : Tool Unit :=
  Tool.complain ("warning: options " ++ other ++ " and " ++ option ++
    " are mutually exclusive, ignoring previous " ++ other ++ " value").toList

def Rules.take (r : Rules) (letter : Char) (value : Text) : Tool Rules := do
  let number (least : Int) : Tool Nat := do return (← numberOf letter value least none true).toNat
  let replaced (option : String) : Tool Rules := do
    if r.pattern.isSome then overrule option "--replace"
    return { r with pattern := none }
  let unlined (option : String) : Tool Unit := do if r.lines ≠ 0 then overrule option "--max-lines"
  let uncounted (option : String) : Tool Unit := do
    if r.arguments ≠ 0 then overrule option "--max-args"
  match letter with
  | '0' => return { r with mark := some '\x00' }
  | 'd' => return { r with mark := some (← markOf value) }
  | 'a' => return { r with source := some value }
  | 'E' | 'e' => return { r with last := if value = [] then none else some value }
  | 'I' | 'i' =>
    let option := "--replace/-I/-i"
    unlined option
    uncounted option
    let pattern := if letter = 'i' ∧ value = [] then ['\x7b', '\x7d'] else value
    return { r with pattern := some pattern, lines := 0, arguments := 0 }
  | 'L' =>
    let lines ← number 1
    uncounted "-L"
    return { ← replaced "-L" with lines, arguments := 0 }
  | 'l' =>
    let lines ← if value = [] then pure 1 else number 1
    uncounted "--max-lines/-l"
    return { ← replaced "--max-lines/-l" with lines, arguments := 0 }
  | 'n' =>
    let arguments ← number 1
    unlined "--max-args/-n"
    if r.pattern.isSome ∧ arguments = 1 then return { r with lines := 0 }
    return { ← replaced "--max-args/-n" with lines := 0, arguments }
  | 's' =>
    let p ← Tool.process
    let taken : Nat := sumOf (p.environment.map fun t => t.length + 1)
    let most : Int := 2097152 - 2048 - (taken : Int)
    return { r with room := (← numberOf 's' value 1 (some most) false).toNat }
  | 'P' => return { r with atOnce := (← numberOf 'P' value 0 (some 2147483647) true).toNat }
  | 'x' => return { r with strict := true }
  | 'p' => return { r with asks := true }
  | 't' => return { r with shows := true }
  | 'r' => return { r with waits := true }
  | 'o' => return { r with terminal := true }
  | 'S' =>
    if value.contains '=' then
      Tool.refuse 1
        "option --process-slot-var may not be set to a value which includes \x60='".toList
    return { r with slot := some value }
  | _ => return r

end Supply

namespace Utility

open Supply

def supplyCommands (start : Script.Start) : Tool Nat := do
  let g ← Known.given
    { letters := "0oprtx", valued := "EILPadnsS", loose := "eil", named := "S", mixed := false
      long := [("null", '0'), ("arg-file", 'a'), ("delimiter", 'd'), ("eof", 'e'), ("replace", 'i'),
        ("max-lines", 'l'), ("max-args", 'n'), ("open-tty", 'o'), ("interactive", 'p'),
        ("no-run-if-empty", 'r'), ("max-chars", 's'), ("verbose", 't'), ("exit", 'x'),
        ("max-procs", 'P'), ("process-slot-var", 'S')] }
  let mut rules : Rules := { start }
  for (letter, value) in g.options do rules ← rules.take letter value
  if rules.mark.isSome ∧ rules.last.isSome then
    Tool.complain "warning: the -E option has no effect if -0 or -d is used.\n".toList
    rules := { rules with last := none }
  let feed ← match rules.source with
    | none => pure ({} : Feed)
    | some name =>
      match ← Feed.ofName name with
      | .ok feed => pure feed
      | .error cause =>
        Tool.refuse 1 ("Cannot open input file ".toList ++ quotePlainly name ++ ": ".toList ++
          reason cause)
  let command := if g.operands = [] then ["echo".toList] else g.operands
  let (status, _) ← StateT.run (Supply.all command rules) { feed }
  return status

end Utility
end LineShell
