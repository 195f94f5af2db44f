import LineShell.Host.Utility.Finding.Search

/-! `find`: files in trees that answer a query. -/
namespace LineShell.Utility

open Finding

def takeFindOptions : Nat → Manner → List Text → Tool (Manner × List Text)
  | 0, m, arguments => return (m, arguments)
  | fuel + 1, m, arguments => do
    match arguments with
    | ['-', '-'] :: rest => return (m, rest)
    | ['-', 'H'] :: rest => takeFindOptions fuel { m with following := .starts } rest
    | ['-', 'L'] :: rest => takeFindOptions fuel { m with following := .all } rest
    | ['-', 'P'] :: rest => takeFindOptions fuel { m with following := .none } rest
    | ['-', 'D'] :: topic :: rest =>
      for name in splitWhere (· == ',') topic do
        if ! ["exec", "opt", "rates", "search", "stat", "time", "tree", "all", "help"].any
            (·.toList == name) then
          Tool.complain ("Ignoring unrecognised debug flag ".toList ++ quotePlainly name)
      takeFindOptions fuel m rest
    | ['-', 'D'] :: [] => Tool.refuse 1 "Missing argument after the -D option.".toList
    | ('-' :: 'O' :: level) :: rest =>
      if level = [] then
        Tool.refuse 1 "The -O option must be immediately followed by a decimal integer".toList
      if (Text.natural? level).isNone then
        Tool.refuse 1 "Please specify a decimal number immediately after -O".toList
      takeFindOptions fuel m rest
    | arguments => return (m, arguments)

def findFiles (start : Script.Start) : Tool Nat := do
  let arguments ← Tool.arguments
  let (manner, rest) ← takeFindOptions (arguments.length + 1) {} arguments
  let paths := rest.takeWhile (!Reader.isQueryWord true ·)
  let now : Int := (← Tool.view).files.now
  let (query, reading) ← StateT.run Reader.whole
    { rest := rest.drop paths.length, manner, dialect := (Reader.dialects.headD ("", {})).2
      origin := now - 86400 * 1000000000 }
  let plan : Plan := { manner := reading.manner, query, start, zone := ← Tool.zone }
  let (status, _) ← StateT.run (Search.run (if paths = [] then [['.']] else paths) plan) {}
  return status

end LineShell.Utility
