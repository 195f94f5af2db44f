import LineShell.Host.Utility.Basic

/-! Commands that a program has a shell carry out. -/
namespace LineShell.Utility

/-- Starts a shell with a command as a process of its own, after some preparation there, and gives
the number of the process. The shell knows itself by a name. -/
def startShell (start : Script.Start) (command : Text) (prepare : Activity Unit)
    (name : Text := "sh".toList) : Tool Nat := do
  Tool.flush
  let environment := (← Tool.process).environment
  Tool.act <| Activity.fork do
    prepare
    match ← start "/bin/sh".toList [name, "-c".toList, command] environment with
    | .ok ending => return ending
    | .error _ => return .exited 127

/-- Runs a command by a shell, and gives what it prints and how it ends. -/
def outputOf (start : Script.Start) (command : Text) : Tool (Text × Ending) := do
  let (input, output) ← Tool.act Script.Runner.openPipe
  let child ← startShell start command do
    Activity.close input
    Script.moveDescriptor output 1
  Tool.act (.close output)
  let t ← Tool.act (.drain input)
  Tool.act (.close input)
  return (t.toOption.getD [], ← Tool.act (.join child))

end LineShell.Utility
