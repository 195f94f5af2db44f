import LineShell.Host.Utility.Calculation
import LineShell.Host.Utility.Characters
import LineShell.Host.Utility.Checksum
import LineShell.Host.Utility.Comparing.Comparer
import LineShell.Host.Utility.Concatenate
import LineShell.Host.Utility.Copies
import LineShell.Host.Utility.Counting
import LineShell.Host.Utility.Dates
import LineShell.Host.Utility.Directories
import LineShell.Host.Utility.Dump
import LineShell.Host.Utility.Editing.Editor
import LineShell.Host.Utility.Finding.Finder
import LineShell.Host.Utility.Identity
import LineShell.Host.Utility.Joining
import LineShell.Host.Utility.List
import LineShell.Host.Utility.Parts
import LineShell.Host.Utility.Printing
import LineShell.Host.Utility.Questions
import LineShell.Host.Utility.Records.Program
import LineShell.Host.Utility.Running
import LineShell.Host.Utility.Searching
import LineShell.Host.Utility.Sequence
import LineShell.Host.Utility.Sorting
import LineShell.Host.Utility.Spacing
import LineShell.Host.Utility.Supply

/-! The programs that every host has, by name. -/
namespace LineShell.Utility

/-- A program: what it does, and what it ends with when its output is lost. -/
structure Program where
  run : Script.Start → Tool Nat
  failure : Nat := 1

def Program.plain (tool : Tool Nat) (failure : Nat := 1) : Program := ⟨fun _ => tool, failure⟩

def programs : List (String × Program) :=
  [("[", .plain bracket), ("arch", .plain nameMachine), ("b2sum", .plain (digestFiles (.blake 512))), ("basename", .plain baseName), ("cat", .plain concatenate), ("chmod", .plain changeMode), ("cksum", .plain checkSums),
    ("cmp", .plain compareFiles 2), ("comm", .plain compareLines), ("cp", .plain copy), ("cut", .plain cutLines), ("date", .plain date), ("diff", .plain printChanges 2), ("dirname", .plain printDirectoryName),
    ("echo", .plain echo), ("egrep", .plain (searchLines (some 'E')) 2),
    ("env", ⟨withEnvironment, 125⟩), ("expand", .plain expandTabs), ("expr", .plain evaluate 3), ("false", .plain (pure 1)),
    ("fgrep", .plain (searchLines (some 'F')) 2), ("find", ⟨findFiles, 1⟩), ("fold", .plain foldLines), ("grep", .plain (searchLines none) 2), ("groups", .plain nameGroups),
    ("head", .plain head), ("id", .plain identify), ("join", .plain joinLines), ("link", .plain linkFile), ("ln", .plain makeLinks), ("logname", .plain nameLogin), ("ls", .plain list 2),
    ("mawk", ⟨processRecords, 2⟩), ("md5sum", .plain (digestFiles .md5)), ("mkdir", .plain makeDirectories), ("mkfifo", .plain makePipes),
    ("mktemp", .plain makeTemporary), ("mv", .plain move), ("nice", ⟨withNiceness, 125⟩), ("nl", .plain numberLines),
    ("nohup", ⟨withoutHangup, 125⟩), ("nproc", .plain countProcessors),
    ("od", .plain dumpBytes), ("paste", .plain paste), ("printenv", .plain printEnvironment 2), ("printf", .plain printFormatted), ("pwd", .plain printWorkingDirectory),
    ("readlink", .plain readLinks), ("realpath", .plain realPath),
    ("rev", .plain reverseCharacters), ("rm", .plain remove), ("rmdir", .plain removeDirectories),
    ("sed", ⟨editStream, 4⟩), ("seq", .plain sequence), ("sha1sum", .plain (digestFiles .sha1)), ("sha224sum", .plain (digestFiles (.sha2 224))),
    ("sha256sum", .plain (digestFiles (.sha2 256))), ("sha384sum", .plain (digestFiles (.sha2 384))),
    ("sha512sum", .plain (digestFiles (.sha2 512))), ("sleep", .plain sleep), ("sort", .plain sort 2),
    ("stat", .plain showState), ("sum", .plain sums), ("sync", .plain synchronize), ("tac", .plain reverseLines), ("tail", .plain tail),
    ("tee", .plain tee), ("test", .plain test), ("time", ⟨withTime, 1⟩), ("timeout", ⟨withTimeout, 125⟩), ("touch", .plain touch), ("tr", .plain translate), ("true", .plain (pure 0)), ("tty", .plain nameTerminal 3), ("uname", .plain nameSystem),
    ("truncate", .plain resize), ("unexpand", .plain unexpandTabs), ("uniq", .plain unique), ("unlink", .plain unlinkFile), ("users", .plain nameUsers), ("wc", .plain count),
    ("which", .plain locate), ("who", .plain nameUsers), ("whoami", .plain nameUser), ("xargs", ⟨supplyCommands, 1⟩), ("yes", .plain sayYes)]

def shellName : Text := "dash".toList

def names : List Text := shellName :: programs.map fun (name, _) => name.toList

def run (start : Script.Start) (name : Text) : Activity Ending :=
  if name = shellName then Script.run start
  else
    match programs.find? fun (key, _) => key.toList == name with
    | some (_, program) => Tool.finish program.failure (program.run start)
    | none => return .exited 127

end LineShell.Utility
