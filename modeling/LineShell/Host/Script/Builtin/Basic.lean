import LineShell.Host.Script.Expansion

/-! What the commands that a script carries out itself have in common. -/
namespace LineShell.Script.Builtin

/-- Reads the options in front of arguments: their letters, with the values of those that take one,
and the arguments behind them. `fuel` bounds the number of letters. -/
def readOptions (allowed valued : Text) : Nat → List Text → Step (List (Char × Text) × List Text)
  | 0, arguments => return ([], arguments)
  | fuel + 1, arguments => do
    match arguments with
    | ['-', '-'] :: rest => return ([], rest)
    | ('-' :: c :: letters) :: rest =>
      if valued.contains c then
        match letters, rest with
        | [], [] => Step.fail ("No arg for -".toList ++ c :: " option".toList)
        | [], value :: rest =>
          let (options, rest) ← readOptions allowed valued fuel rest
          return ((c, value) :: options, rest)
        | value, rest =>
          let (options, rest) ← readOptions allowed valued fuel rest
          return ((c, value) :: options, rest)
      else if allowed.contains c then
        let rest := if letters = [] then rest else ('-' :: letters) :: rest
        let (options, rest) ← readOptions allowed valued fuel rest
        return ((c, []) :: options, rest)
      else Step.fail ("Illegal option -".toList ++ [c])
    | _ => return ([], arguments)

/-- The options among these letters, and the arguments behind them. -/
def options (allowed : String) (arguments : List Text) : Step (List Char × List Text) := do
  let (found, rest) ← readOptions allowed.toList [] 1000 arguments
  return (found.map (·.1), rest)

/-- The text in single quotes, with its own single quotes in double ones. -/
def quoteFrom : Nat → Text → Text
  | 0, _ => []
  | n + 1, t =>
    let plain := t.takeWhile (· != '\'')
    let marks := (t.drop plain.length).takeWhile (· == '\'')
    let rest := t.drop (plain.length + marks.length)
    let quoted := '\'' :: plain ++ ['\'']
    if marks = [] then quoted
    else quoted ++ '"' :: marks ++ '"' :: (if rest = [] then [] else quoteFrom n rest)

def quote (t : Text) : Text := quoteFrom (t.length + 1) t

def number (t : Text) : Step Nat := do
  match Text.natural? t with
  | some n => if n ≤ 2147483647 then return n else Step.fail ("Illegal number: ".toList ++ t)
  | none => Step.fail ("Illegal number: ".toList ++ t)

end LineShell.Script.Builtin
