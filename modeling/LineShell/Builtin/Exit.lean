import LineShell.Builtin.Basic

/-! `exit` asks the shell to stop. -/
namespace LineShell.Builtin

def maxStatus : Nat := 2147483647

/-- A status is written in decimal digits, with at most one plus sign in front. -/
def status? (t : Text) : Option Status :=
  let digits := match t with
    | '+' :: rest => rest
    | _ => t
  match Text.natural? digits with
  | some n => if n ≤ maxStatus then some (Int32.ofNat n) else none
  | none => none

def runExit (operands : List Text) : Command := fun sh =>
  let stop (status : Status) : Result :=
    (.ok status, { sh with session.exitRequest := some status })
  match operands with
  | [] => stop sh.session.lastStatus
  | t :: _ =>
    match status? t with
    | some status => stop status
    | none => (.error (.usage 2 ("Illegal number: ".toList ++ t)), sh)

def exit : Builtin where
  synopsis :=
    { name := "exit".toList
      description :=
        "Exit the shell. Without a status, the status of the last command is used.".toList
      operands := .optional "code".toList "exit status, a non-negative integer".toList }
  literal := true
  execute := runExit

end LineShell.Builtin
