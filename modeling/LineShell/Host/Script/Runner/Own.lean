import LineShell.Host.Script.Builtin.Input
import LineShell.Host.Script.Builtin.Limits
import LineShell.Host.Script.Builtin.Place
import LineShell.Host.Script.Builtin.Variables
import LineShell.Host.Script.Condition
import LineShell.Host.Script.Format
import LineShell.Host.Script.Runner.Kind

/-!
Functions, and the commands that a script carries out itself.
-/
namespace LineShell.Script.Runner

/-- How many functions may be called by one another. -/
def callLimit : Nat := 1000

def callFunction (r : Runner) (how : Manner) (body : Command) (arguments : List Text) :
    Step Unit := do
  let m ← get
  if m.calls = callLimit then
    Step.fail ("Maximum function recursion depth (".toList ++ Text.decimal callLimit ++
      ") reached".toList)
  let enter (n : Machine) := { n with
    parameters := arguments, calls := m.calls + 1, loops := 0, optionOffset := 0 }
  let leave (n : Machine) := { n with
    parameters := m.parameters, calls := m.calls, loops := m.loops
    optionOffset := m.optionOffset }
  Step.around enter leave fun m => do
    match ← (r.run how.inner body).run m with
    | (.error .returns, m) => return (.ok (), m)
    | result => return result

/-- Runs the commands of a file in the script itself. -/
def runFile (r : Runner) (how : Manner) (arguments : List Text) : Step Nat := do
  match arguments with
  | [] => return 0
  | name :: _ =>
    let m ← get
    let candidates := if name.contains '/' then [name]
      else (splitWhere (· == ':') (searchPath m)).map fun entry =>
        if entry = [] then name else Path.within entry name
    let v ← Step.view
    match candidates.find? fun c => (v.node? c).any Node.isFile with
    | none =>
      if name.contains '/' then
        match ← Step.perform (.content name) with
        | .ok _ => return 0
        | .error cause => openFailure name cause
      else Step.fail (name ++ ": not found".toList)
    | some file =>
      match ← Step.perform (.content file) with
      | .error cause => openFailure file cause
      | .ok text =>
        Step.setStatus 0
        fun m => do
          match ← (r.runLines how.inner text).run m with
          | (.error .returns, m) | (.ok _, m) => return (.ok m.status, m)
          | (.error stop, m) => return (.error stop, m)

/-- Carries out a command of the script's own that is neither `exec` nor `command`. -/
def ownCommand (r : Runner) (how : Manner) (name : String) (arguments : List Text) : Step Nat := do
  match name with
  | ":" | "true" => return 0
  | "false" => return 1
  | "." =>
    let (_, operands) ← Builtin.options "" arguments
    r.runFile how operands
  | "eval" =>
    if arguments.all (· == []) then return 0
    else
      r.runText how.inner (Text.joined [' '] arguments)
      return (← get).status
  | "break" => Builtin.breakLoops arguments
  | "continue" => Builtin.continueLoops arguments
  | "exit" => Builtin.exitScript arguments
  | "return" => Builtin.returnStatus arguments
  | "exec" => r.replaceScript arguments
  | "export" => Builtin.exportNames arguments
  | "readonly" => Builtin.fixNames arguments
  | "local" => Builtin.keepNames arguments
  | "set" => Builtin.setParameters arguments
  | "shift" => Builtin.shiftParameters arguments
  | "times" => Builtin.times
  | "trap" => Builtin.trap arguments
  | "unset" => Builtin.unsetNames arguments
  | "alias" => Builtin.defineAliases arguments
  | "unalias" => Builtin.removeAliases arguments
  | "bg" | "fg" => Builtin.refuseControl arguments
  | "cd" | "chdir" => Builtin.changeDirectory arguments
  | "echo" =>
    Step.print (Format.echo arguments)
    return 0
  | "printf" =>
    let (_, operands) ← Builtin.options "" arguments
    match operands with
    | [] => Step.fail "usage: printf format [arg ...]".toList
    | format :: arguments =>
      let printed := Format.printf format arguments
      for message in printed.complaints do Step.report message
      Step.print printed.reversed.reverse
      match printed.stopped with
      | some (some message) => Step.fail message
      | _ => return if printed.complaints.isEmpty then 0 else 1
  | "getopts" => Builtin.getopts arguments
  | "hash" => trackAll arguments
  | "jobs" => Builtin.jobs arguments
  | "kill" => Builtin.kill arguments
  | "pwd" => Builtin.printDirectory arguments
  | "read" => Builtin.readVariables arguments
  | "test" => Condition.test arguments
  | "[" => Condition.bracket arguments
  | "type" => describeAll true 0 arguments
  | "ulimit" => Builtin.limit arguments
  | "umask" => Builtin.setMask arguments
  | "wait" => Builtin.wait arguments
  | _ => return 0

/-- Writes what a command has printed; says so if it cannot. -/
def flush (name : Text) : Step Unit := do
  let m ← get
  let t := m.printed.reverse.flatten
  set { m with printed := [] }
  if t ≠ [] then
    match ← Step.write 1 t with
    | none => return ()
    | some _ =>
      Step.report (name ++ ": I/O error".toList)
      modify fun m => { m with status := m.status ||| 1 }

def runOwn (r : Runner) (how : Manner) (special : Bool) (name : Text)
    (arguments : List Text) : Step Unit := do
  let outer ← get
  modify ({ · with command := name, printed := [] })
  let step : Step Unit := do Step.setStatus (← r.ownCommand how (String.ofList name) arguments)
  let ended ← fun m => do
    let (result, m) ← step.run m
    let (_, m) ← (flush name).run m
    return (.ok result, m)
  modify ({ · with command := outer.command, printed := outer.printed })
  match ended with
  | .ok () => return ()
  | .error .failure => if special then throw .failure
  | .error stop => throw stop

/-- The words behind `command` and its options, with the option that came last. -/
def commandOptions : List Text → Option Char × List Text
  | ['-', '-'] :: rest => (none, rest)
  | ['-', c] :: rest =>
    if c = 'p' ∨ c = 'v' ∨ c = 'V' then
      let (option, rest) := commandOptions rest
      (option.orElse fun _ => some c, rest)
    else (none, ['-', c] :: rest)
  | rest => (none, rest)

/-- Says what the first of some names stands for, as `command` does. -/
def describeFirst (long : Bool) (names : List Text) : Step Unit := do
  let outer ← get
  Step.setStatus (← describeAll long 0 (names.take 1))
  modify ({ · with command := "command".toList })
  flush "command".toList
  modify ({ · with command := outer.command })

def runFields (r : Runner) (how : Manner) (fields : List Text) : Step Unit := do
  let m ← get
  match fields with
  | [] => return ()
  | name :: arguments =>
    match kindOf m name with
    | .function body => r.callFunction how body arguments
    | .builtin special =>
      if name = "command".toList then
        match commandOptions arguments with
        | (some 'v', names) => describeFirst false names
        | (some 'V', names) => describeFirst true names
        | (option, inner) =>
          match inner with
          | [] => Step.setStatus 0
          | name :: arguments =>
            if specialNames.contains name ∨ regularNames.contains name then
              r.runOwn how false name arguments
            else r.runProgram how (if option.isSome then defaultPath else searchPath m) inner
      else r.runOwn how special name arguments
    | .program => r.runProgram how (searchPath m) fields

end LineShell.Script.Runner
