import LineShell.Host.Script.Runner.Own

/-!
Simple commands: words are expanded, variables assigned, files opened, and then the command runs.
-/
namespace LineShell.Script.Runner

/-- Whether the command of this name takes assignments as arguments. -/
def declares (name : Text) : Bool :=
  ["alias", "export", "local", "readonly"].any fun t => t.toList = name

def expandWords (r : Runner) : List Text → List Word → Step (List Text)
  | fields, [] => return fields
  | fields, word :: rest => do
    let front := if fields.head? = some "command".toList then fields.tail else fields
    match front.any declares, assignment? word with
    | true, some (name, value) =>
      let t ← expandAssigned r.substitute value
      r.expandWords (fields ++ [name ++ '=' :: t]) rest
    | _, _ => r.expandWords (fields ++ (← expandFields r.substitute word)) rest

/-- Shows a command before it runs, if that is asked for. -/
def trace (errors : Option Nat) (assigned : List (Text × Text)) (fields : List Text) :
    Step Unit := do
  let m ← get
  if m.has 'x' then
    let sign := (m.value? "PS4".toList).getD []
    let words := assigned.map (fun (name, value) => name ++ '=' :: value) ++ fields
    let given := (← Step.self).descriptors.lookup 2
    let lead (file : Option Nat) : Activity Unit :=
      match file with
      | some file => .attach 2 file
      | none => .close 2
    Step.perform (lead errors)
    Step.ensuring (Step.tell (sign ++ Text.joined [' '] words)) (lead given)

def runSimple (r : Runner) (how : Manner) (line : Nat) (assignments words : List Word)
    (redirections : List Redirection) : Step Unit := do
  modify ({ · with line, innerStatus := 0 })
  let fields ← r.expandWords [] words
  let kind := kindOf (← get) (fields.headD [])
  let special := fields ≠ [] ∧ kind matches .builtin true
  let stays := fields = ["exec".toList]
  let errors := (← Step.self).descriptors.lookup 2
  let body : Step Unit := do
    let assigned (act : Text → Text → Step Unit) : Step (List (Text × Text)) :=
      assignments.filterMapM fun word => do
        match assignment? word with
        | none => return none
        | some (name, value) =>
          let t ← expandAssigned r.substitute value
          act name t
          return some (name, t)
    if fields = [] ∨ special then
      let leads := fields.head? = some "exec".toList ∧ !stays
      let given ← assigned fun name t => do
        Step.assign name t
        if leads then Step.exportName name
      trace errors given fields
      if fields = [] then Step.setStatus (← get).innerStatus
      else r.runFields how fields
    else
      Step.withLocals do
        let given ← assigned fun name t => do
          Step.keep name
          Step.assign name t
          Step.exportName name
        trace errors given fields
        r.runFields how fields
  withRedirections r.substitute redirections stays special body

end LineShell.Script.Runner
