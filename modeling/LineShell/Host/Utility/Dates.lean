import LineShell.Host.Utility.Attributes
import LineShell.Host.Utility.Concatenate

/-! `date`: times in many notations. -/
namespace LineShell.Utility

/-- How exact a time is given, with the notation for that. -/
abbrev Precisions := List (String × String)

def isoFormats : Precisions :=
  [("hours", "%Y-%m-%dT%H%:z"), ("minutes", "%Y-%m-%dT%H:%M%:z"), ("date", "%Y-%m-%d"),
    ("seconds", "%Y-%m-%dT%H:%M:%S%:z"), ("ns", "%Y-%m-%dT%H:%M:%S,%N%:z")]

def plainFormats : Precisions :=
  [("date", "%Y-%m-%d"), ("seconds", "%Y-%m-%d %H:%M:%S%:z"),
    ("ns", "%Y-%m-%d %H:%M:%S.%N%:z")]

def mailFormat : String := "%a, %d %b %Y %H:%M:%S %z"

/-- The notation that is used unless another one is asked for. -/
def usualFormat : String := "%a %b %e %H:%M:%S %Z %Y"

/-- The notation for a precision, which may be given by the beginning of its name. -/
def precisionFormat (option : String) (precisions : Precisions) (value : Text) : Tool Text := do
  let fitting := precisions.filter fun (name, _) => value.isPrefixOf name.toList
  match precisions.lookup (String.ofList value), fitting with
  | some format, _ | none, [(_, format)] => return format.toList
  | none, others =>
    let what := if others = [] then "invalid" else "ambiguous"
    Tool.complain (what.toList ++ " argument ".toList ++ quotePlainly value ++ " for '".toList ++
      option.toList ++ ['\''])
    Tool.tell "Valid arguments are:".toList
    for (name, _) in precisions do Tool.tell ("  - '".toList ++ name.toList ++ ['\''])
    Tool.tell ("Try '".toList ++ (← Tool.process).name ++ " --help' for more information.".toList)
    Tool.stop 1

inductive DateSource
  | now
  | text (t : Text)
  | reference (name : Text)
  /-- A date in each line of a file. -/
  | batch (name : Text)
  | setting (t : Text)
  /-- Digits that the clock is to be set to. -/
  | stamp (t : Text)

/-- What the options of `date` ask for. -/
structure DateOrder where
  source : DateSource
  format : Text
  /-- Clocks are not to be ahead. -/
  universal : Bool := false

def readDateOrder : Tool DateOrder := do
  let g ← Known.given
    { letters := "uR", valued := "dfrs3", loose := "I", named := "3"
      long := [("date", 'd'), ("file", 'f'), ("reference", 'r'), ("set", 's'), ("rfc-3339", '3'),
        ("iso-8601", 'I'), ("rfc-email", 'R'), ("rfc-822", 'R'), ("rfc-2822", 'R'), ("utc", 'u'),
        ("uct", 'u'), ("universal", 'u'), ("debug", 'D')] }
  let several {α : Type} : Tool α := Tool.refuse 1 "multiple output formats specified".toList
  let mut format : Option Text := none
  for (c, value) in g.options do
    let new : Option Text ← match c with
      | 'I' => do
        let value := if value = [] then "date".toList else value
        pure (some (← precisionFormat "--iso-8601" isoFormats value))
      | '3' => do pure (some (← precisionFormat "--rfc-3339" plainFormats value))
      | 'R' => pure (some mailFormat.toList)
      | _ => pure none
    if new.isSome then
      if format.isSome then several
      format := new
  let shown := ['d', 'f', 'r'].filter g.has
  if 1 < shown.length then
    Tool.misuse 1
      "the options to specify dates for printing are mutually exclusive".toList
  if shown ≠ [] ∧ g.has 's' then
    Tool.misuse 1 "the options to print and set the time may not be used together".toList
  let operand ← match g.operands with
    | [] => pure none
    | [t] => pure (some t)
    | _ :: extra :: _ => Tool.misuse 1 ("extra operand ".toList ++ quotePlainly extra)
  let stamp ← match operand with
    | some ('+' :: t) =>
      if format.isSome then several
      format := some t
      pure none
    | some t =>
      if shown ≠ [] ∨ g.has 's' then
        Tool.misuse 1 ("the argument ".toList ++ quotePlainly t ++ (" lacks a leading '+';\n" ++
          "when using an option to specify date(s), any non-option\n" ++
          "argument must be a format string beginning with '+'").toList)
      pure (some t)
    | none => pure none
  let source : DateSource := match g.value? 'd', g.value? 'f', g.value? 'r', g.value? 's', stamp with
    | some t, _, _, _, _ => .text t
    | _, some name, _, _, _ => .batch name
    | _, _, some name, _, _ => .reference name
    | _, _, _, some t, _ => .setting t
    | _, _, _, _, some t => .stamp t
    | _, _, _, _, none => .now
  return { source, format := format.getD usualFormat.toList, universal := g.has 'u' }

def date : Tool Nat := do
  let o ← readDateOrder
  let v ← Tool.view
  let now : Int := v.files.now
  let zone ← if o.universal then pure Zone.utc else Tool.zone
  let print (time : Int) : Tool Unit :=
    Tool.printLine (DateText.format zone time o.format)
  let invalid (t : Text) : Text := "invalid date ".toList ++ quotePlainly t
  let read (time? : Option Int) (t : Text) : Tool Int := do
    match time? with
    | some time => return time
    | none => Tool.refuse 1 (invalid t)
  let set (time : Int) : Tool Unit := do
    Tool.blame 1 ("cannot set date: ".toList ++ Errno.notPermitted.text)
    print time
  match o.source with
  | .now => print now
  | .text t => print (← read (DateText.read? zone now t) t)
  | .setting t => set (← read (DateText.read? zone now t) t)
  | .stamp t =>
    let digits := t.takeWhile Char.isDigit
    let order := digits.drop 8 ++ digits.take 8 ++ t.drop digits.length
    set (← read (stamp? zone v.files.now order) t)
  | .reference name =>
    match v.find name with
    | .ok (_, node) => print (v.files.modified node)
    | .error cause => Tool.refuse 1 (quoteIfNeeded name ++ ": ".toList ++ reason cause)
  | .batch name =>
    match ← Tool.content name with
    | .error cause => Tool.refuse 1 (quoteIfNeeded name ++ ": ".toList ++ reason cause)
    | .ok t =>
      for line in (linesOf t).map bare do
        match DateText.read? zone now line with
        | some time => print time
        | none => Tool.blame 1 (invalid line)
  return 0

end LineShell.Utility
