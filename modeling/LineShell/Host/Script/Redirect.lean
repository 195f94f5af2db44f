import LineShell.Host.Script.Expansion

/-! Redirections: what a command reads and writes instead of what the script does. -/
namespace LineShell.Script

/-- A redirection whose words have been expanded. -/
inductive Opening
  | input (name : Text)
  | output (name : Text)
  | append (name : Text)
  | both (name : Text)
  | descriptor (number : Option Nat)
  /-- A document; its text is still to be expanded. -/
  | document (number : Nat)

def openingOf (substitute : Substitute) : Target → Step Opening
  | .input word => return .input (← expandText substitute word)
  | .output word => return .output (← expandText substitute word)
  | .append word => return .append (← expandText substitute word)
  | .both word => return .both (← expandText substitute word)
  | .descriptor word => do
    match ← expandText substitute word with
    | ['-'] => return .descriptor none
    | [c] =>
      if c.isDigit then return .descriptor (some (c.toNat - '0'.toNat))
      else Step.fail "Syntax error: Bad fd number".toList
    | _ => Step.fail "Syntax error: Bad fd number".toList
  | .document number => return .document number

/-- What is told of a failure; that nothing is there has words of its own. -/
def reasonFor (missing : String) : IoError → Text
  | .os errno =>
    if errno = .noEntry ∨ errno = .notDirectory then missing.toList else errno.text
  | cause => cause.message

def createFailure {α : Type} (name : Text) (cause : IoError) : Step α :=
  Step.fail ("cannot create ".toList ++ name ++ ": ".toList ++
    reasonFor "Directory nonexistent" cause)

def openFailure {α : Type} (name : Text) (cause : IoError) : Step α :=
  Step.fail ("cannot open ".toList ++ name ++ ": ".toList ++ reasonFor "No such file" cause)

/-- Makes a descriptor refer to what another one refers to, which is closed. -/
def moveDescriptor (source target : Nat) : Activity Unit := do
  if source ≠ target then
    let file ← Activity.fileOf source
    Activity.close source
    Activity.attach target file

/-- Makes a descriptor refer to a file that is written to. -/
def openOutput (descriptor : Nat) (name : Text) (access : Access) : Step Unit := do
  match ← Step.perform (.openForWriting name access) with
  | .error cause => createFailure name cause
  | .ok opened => Step.perform (moveDescriptor opened descriptor)

/-- Makes a descriptor refer to a file that is read. -/
def openInput (descriptor : Nat) (name : Text) : Step Unit := do
  match ← Step.perform (.openForReading name) with
  | .error cause => openFailure name cause
  | .ok opened => Step.perform (moveDescriptor opened descriptor)

/-- Makes a descriptor refer to what an opening stands for. -/
def redirect (substitute : Substitute) (descriptor : Nat) : Opening → Step Unit
  | .input name => openInput descriptor name
  | .output name => do
    if (← get).has 'C' ∧ ((← Step.view).node? name).any Node.isFile then
      createFailure name (.os .fileExists)
    else openOutput descriptor name (.write false)
  | .append name => openOutput descriptor name (.write true)
  | .both name => openOutput descriptor name .both
  | .descriptor none => Step.perform (.close descriptor)
  | .descriptor (some number) => do
    match (← Step.self).descriptors.lookup number with
    | some file => Step.perform (.attach descriptor file)
    | none =>
      Step.fail (Text.decimal number ++ ": ".toList ++ Errno.text .badDescriptor)
  | .document number => do
    let body := ((← get).documents.lookup number).getD []
    let pieces ← body.mapM (expandFragment substitute expansionLimit .text false)
    let text := Piece.text pieces.flatten
    let stream := Stream.ofPieces .pipe [text.toBytes]
    Step.perform do
      let (input, _) ← Activity.update fun s =>
        let (input, output, s) := s.addPipe stream
        ((input, output), s)
      Activity.attach descriptor input

/-- Runs a step, and says whether it went without a mistake. -/
def attempt (step : Step Unit) : Step Bool := fun m => do
  match ← step.run m with
  | (.ok _, m) => return (.ok true, m)
  | (.error .failure, m) => return (.ok false, m)
  | (.error stop, m) => return (.error stop, m)

def restoreDescriptors (numbers : List Nat) (before : List (Nat × Nat)) : Activity Unit :=
  Activity.alter fun p => numbers.foldl (fun p number =>
    match before.lookup number with
    | some file => p.attach number file
    | none => p.detach number) p

/-- Runs a command with redirections. They stay where `permanent` holds; a mistake in them ends the
script where `strict` holds, and else the command is left out. -/
def withRedirections (substitute : Substitute) (redirections : List Redirection)
    (permanent strict : Bool) (body : Step Unit) : Step Unit := do
  if redirections.isEmpty then body
  else
    let openings ← redirections.mapM fun
      | .mk descriptor target => return (descriptor, ← openingOf substitute target)
    let before := (← Step.self).descriptors
    let restore := if permanent then pure () else restoreDescriptors (openings.map (·.1)) before
    let steps := openings.map fun (descriptor, opening) => redirect substitute descriptor opening
    let guarded : Step Unit := do
      if ← attempt (steps.forM id) then
        body
      else
        Step.setStatus 2
        if strict then throw .failure
    Step.ensuring guarded restore

end LineShell.Script
