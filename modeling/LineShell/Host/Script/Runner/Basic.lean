import LineShell.Host.Script.Machine
import LineShell.Host.Script.Parser

/-!
Running a text: commands are read and run one after the other. How one command is run, and how
other programs are started, are parameters, since both lead back here.
-/
namespace LineShell.Script

/-- Starts a program in place of a process, with arguments and variables. -/
abbrev Start := Text → List Text → List Text → Activity (Except IoError Ending)

/-- What is to be minded when a command is run. -/
structure Manner where
  /-- Its status is asked for, so failure is no mistake. -/
  tested : Bool := false
  /-- Nothing comes behind it, so a program may take the place of the script. -/
  last : Bool := false

/-- For commands inside one whose own place is not the last. -/
def Manner.inner (how : Manner) : Manner := { how with last := false }

/-- How commands are run and programs started. -/
structure Runner where
  run : Manner → Command → Step Unit
  start : Start

namespace Runner

def loopLimit : Nat := 1000000000

/-- Shows the lines that a command has been read from. -/
def showLines (before after : Source) : Step Unit := do
  if before.shown ∧ (← get).has 'v' then
    let taken := before.text.take (before.text.length - after.text.length)
    let line := after.text.takeWhile (· != '\n')
    let ends := taken = [] ∨ taken.getLast? = some '\n'
    let rest := if ends then [] else line ++ (after.text.drop line.length).take 1
    let _ ← Step.write 2 (taken ++ rest)

/-- What comes of reading the next complete command. -/
abbrev Read := EStateM.Result Fault Source (Option Command)

def readNext (source : Source) : Step (Source × Read) := do
  let m ← get
  let source := { source with aliases := m.aliases, documents := m.documents }
  return (source, parseNext.run source)

/-- Runs the command that has been read. What is left of the text comes back, unless it has
ended. -/
def runRead (r : Runner) (how : Manner) (source : Source) (read : Read) :
    Step (Option Source) := do
  match read with
  | .error fault after =>
    showLines source after
    modify ({ · with line := fault.line })
    Step.fail fault.message
  | .ok none after =>
    showLines source after
    return none
  | .ok (some command) after =>
    showLines source after
    modify ({ · with documents := after.documents })
    let last := how.last && after.returned matches some .endOfFile
    r.run { how with last } command
    return some after

/-- Runs one complete command of a text after the other. -/
def runSource (r : Runner) (how : Manner) : Nat → Source → Step Unit
  | 0, _ => return ()
  | n + 1, source => do
    let (source, read) ← readNext source
    match ← r.runRead how source read with
    | some source => runSource r how n source
    | none => return ()

/-- Whether a complete command has been read: nothing that might follow belongs to it. -/
def isComplete (source : Source) (read : Read) : Bool :=
  let ends := source.text.getLast? == some '\n' && !("\\\n".toList.isSuffixOf source.text)
  match read with
  | .ok (some _) after => !after.text.isEmpty || ends
  | .ok none _ => false
  | .error _ after => !after.text.isEmpty

def chunkSize : Nat := 8192

/-- Runs commands as they come in through a descriptor. What makes no complete command yet waits for
more. NUL bytes do not count. -/
def runInput (r : Runner) (descriptor : Nat) : Nat → Source → Step Unit
  | 0, _ => return ()
  | n + 1, source => do
    let (source, read) ← readNext source
    if isComplete source read then
      match ← r.runRead {} source read with
      | some source => runInput r descriptor n source
      | none => return ()
    else
      match ← Step.perform (.pull descriptor chunkSize) with
      | .error _ | .ok [] => r.runSource {} loopLimit source
      | .ok more =>
        let text := source.text ++ more.filter (· != '\x00')
        runInput r descriptor n { source with text }

def runText (r : Runner) (how : Manner) (t : Text) : Step Unit :=
  r.runSource how loopLimit { text := t.filter (· != '\x00') }

def runLines (r : Runner) (how : Manner) (t : Text) : Step Unit :=
  r.runSource how loopLimit { text := t.filter (· != '\x00'), shown := true }

end Runner

end LineShell.Script
