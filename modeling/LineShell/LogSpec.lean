import LineShell.LogSpec.Filter

/-!
The variable that says what is logged: directives such as `name=level` with commas between them, and
perhaps a filter for messages behind a slash. What is wrong with it is reported, and it is read as
if that were not there.
-/
namespace LineShell.LogSpec

def variableName : Text := "HSH_LOG".toList

/-- The levels, each of which has those before it logged as well. -/
def levels : List String := ["off", "error", "warn", "info", "debug", "trace"]

def isLevel (t : Text) : Bool := levels.any fun level => level.toList = t.map Char.toLower

def directiveFault? (t : Text) : Option Text :=
  let invalid (part : Text) : Option Text :=
    some ("invalid logging spec '".toList ++ part ++ ['\''])
  match splitWhere (· == '=') t with
  | [_] => none
  | [_, level] =>
    let level := Text.trim level
    if level = [] ∨ isLevel level then none else invalid level
  | _ => invalid t

def faults (spec : Text) : List Text :=
  match splitWhere (· == '/') spec with
  | _ :: _ :: _ :: _ => ["invalid logging spec '".toList ++ spec ++ "' (too many '/'s)".toList]
  | directives :: filters =>
    let parts := (splitWhere (· == ',') directives).map Text.trim
    (parts.filter (· ≠ [])).filterMap directiveFault? ++ filters.filterMap fun filter =>
      (filterFault? filter).map fun fault => "invalid regex filter - ".toList ++ fault.report filter
  | [] => []

/-- What is said about a specification when it is read. -/
def warnings (spec : Text) : Text :=
  (faults spec).flatMap fun fault =>
    Text.line ("warning: ".toList ++ fault ++ ", ignoring it".toList)

end LineShell.LogSpec
