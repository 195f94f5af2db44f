import LineShell.Host.Script.Runner.Process

/-!
Programs that a script starts by name, and where they are found.
-/
namespace LineShell.Script.Runner

/-- Where a program of this name is, along the search path. -/
def findProgram (v : View) (path name : Text) : Except Errno Text :=
  if name.contains '/' then .ok name
  else
    let candidates := (splitWhere (· == ':') path).map fun entry =>
      if entry = [] then name else Path.within entry name
    let nodes := candidates.filterMap fun c => (v.node? c).map (c, ·)
    match nodes.find? fun (_, node) => node.isFile && v.files.mayExecute node with
    | some (c, _) => .ok c
    | none => .error (if nodes.isEmpty then .noEntry else .accessDenied)

def track (name file : Text) : Step Unit := modify fun m =>
  if name.contains '/' ∨ (m.tracked.lookup name).isSome then m
  else { m with tracked := m.tracked ++ [(name, file)] }

/-- Where programs are looked for if nothing else is said. -/
def defaultPath : Text :=
  "/usr/local/sbin:/usr/local/bin:/usr/sbin:/usr/bin:/sbin:/bin".toList

def searchPath (m : Machine) : Text := (m.value? "PATH".toList).getD []

/-- Starts a program in place of a process. A file without an interpreter is a script. -/
def startFile (r : Runner) (path : Text) (arguments environment : List Text) :
    Activity (Except IoError Ending) := do
  match ← r.start path arguments environment with
  | .error (.os errno) =>
    if errno = .noExecFormat then
      let shell := "/bin/sh".toList
      r.start shell (shell :: path :: arguments.tail) environment
    else return .error (.os errno)
  | result => return result

/-- Reports a program that could not be started, and sets the status. -/
def startFailure (name : Text) (cause : IoError) : Step Unit := do
  Step.report (name ++ ": ".toList ++ reasonFor "not found" cause)
  let isMissing := [Errno.noEntry, .notDirectory, .tooManyLinks, .nameTooLong].any fun errno =>
    cause == .os errno
  Step.setStatus (if isMissing then 127 else 126)

def becomeProgram (r : Runner) (file : Text) (fields : List Text) : Step Unit := do
  let environment := (← get).environment
  match ← Step.perform (r.startFile file fields environment) with
  | .ok ending => Step.perform (.halt ending)
  | .error cause =>
    startFailure (fields.headD []) cause
    throw .exit

/-- Starts a program by its name, and waits for it. -/
def runProgram (r : Runner) (how : Manner) (path : Text) (fields : List Text) : Step Unit := do
  let m ← get
  let name := fields.headD []
  match findProgram (← Step.view) path name with
  | .error errno =>
    Step.report (name ++ ": ".toList ++ reasonFor "not found" (.os errno))
    Step.setStatus 127
  | .ok file =>
    if path = searchPath m then track name file
    if how.last ∧ m.traps = [] then r.becomeProgram file fields
    else Builtin.settle (← r.runApart (r.becomeProgram file fields))

def replaceScript (r : Runner) (fields : List Text) : Step Nat := do
  match fields with
  | [] => return 0
  | name :: _ =>
    match findProgram (← Step.view) (searchPath (← get)) name with
    | .error errno =>
      startFailure name (.os errno)
      throw .exit
    | .ok file =>
      r.becomeProgram file fields
      return 0

end LineShell.Script.Runner
