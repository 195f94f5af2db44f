import LineShell.Host.Utility.Editing.Pass

/-! `sed`: a script for every line. -/
namespace LineShell.Utility

open Editing

/-- What is told of the program that edits streams; a NUL stands for its name. -/
def editorManual : List String :=
  ["Usage: \x00 [OPTION]... \x7bscript-only-if-no-other-script\x7d [input-file]...", "",
    "  -n, --quiet, --silent", "                 suppress automatic printing of pattern space",
    "      --debug", "                 annotate program execution",
    "  -e script, --expression=script",
    "                 add the script to the commands to be executed",
    "  -f script-file, --file=script-file",
    "                 add the contents of script-file to the commands to be executed",
    "  --follow-symlinks", "                 follow symlinks when processing in place",
    "  -i[SUFFIX], --in-place[=SUFFIX]",
    "                 edit files in place (makes backup if SUFFIX supplied)",
    "  -l N, --line-length=N",
    "                 specify the desired line-wrap length for the \x60l' command",
    "  --posix", "                 disable all GNU extensions.", "  -E, -r, --regexp-extended",
    "                 use extended regular expressions in the script",
    "                 (for portability use POSIX -E).", "  -s, --separate",
    "                 consider files as separate rather than as a single,",
    "                 continuous long stream.", "      --sandbox",
    "                 operate in sandbox mode (disable e/r/w commands).", "  -u, --unbuffered",
    "                 load minimal amounts of data from the input files and flush",
    "                 the output buffers more often", "  -z, --null-data",
    "                 separate lines by NUL characters",
    "      --help     display this help and exit",
    "      --version  output version information and exit", "",
    "If no -e, --expression, -f, or --file option is given, then the first",
    "non-option argument is taken as the sed script to interpret.  All",
    "remaining arguments are names of input files; if no input files are",
    "specified, then the standard input is read.", ""]

/-- The options of the program that edits streams. Those that have no letter have one here that is
no byte. -/
def editorOptions : Known :=
  { letters := "nrEsuzδφπσ", valued := "efl", loose := "i"
    long := [("quiet", 'n'), ("silent", 'n'), ("expression", 'e'), ("file", 'f'), ("in-place", 'i'),
      ("line-length", 'l'), ("regexp-extended", 'E'), ("separate", 's'), ("unbuffered", 'u'),
      ("null-data", 'z'), ("zero-terminated", 'z'), ("debug", 'δ'), ("follow-symlinks", 'φ'),
      ("posix", 'π'), ("sandbox", 'σ')]
    manual := editorManual }

def refuseScript {α : Type} (origin : Origin) (r : Reading) (message : Text) : Tool α :=
  Tool.refuse 1 ((match origin with
    | .argument n =>
      "-e expression #".toList ++ Text.decimal n ++ ", char ".toList ++ Text.decimal r.position
    | .file name => "file ".toList ++ name ++ " line ".toList ++ Text.decimal r.line) ++
    ": ".toList ++ message)

def openOutputs (r : Reading) : Tool (List (Text × Nat)) := do
  let mut opened : List (Text × Nat) := []
  for name in r.outputs.reverse do
    let isOwn := name == "/dev/stdout".toList || name == "/dev/stderr".toList
    if !isOwn ∧ (opened.lookup name).isNone then
      match ← Tool.act (.openForWriting name (.write false)) with
      | .ok descriptor => opened := (name, descriptor) :: opened
      | .error cause =>
        Tool.refuse 4 ("couldn't open file ".toList ++ name ++ ": ".toList ++ reason cause)
  return opened

/-- Takes another step of reading a script. Files that it writes to are made even if it is not
right. -/
def readScript {α : Type} (step : Read α) (r : Reading) : Tool Reading := do
  match step.run r with
  | .ok _ r => return r
  | .error message r =>
    let _ ← openOutputs r
    refuseScript r.origin r message

def editStream (start : Script.Start) : Tool Nat := do
  let g ← editorOptions.given
  let mut r : Reading := { confined := g.has 'σ', oneLine := g.has 'z' }
  let mut arguments := 0
  let hasScript := g.has 'e' || g.has 'f'
  let operand := if hasScript then [] else g.operands.take 1
  for (c, value) in g.options ++ operand.map fun t => ('e', t) do
    match c with
    | 'E' | 'r' => r := { r with extended := true }
    | 'e' =>
      arguments := arguments + 1
      r ← readScript (Read.part (.argument arguments) value) r
    | 'f' =>
      match ← Tool.content value with
      | .error cause =>
        Tool.refuse 4 ("couldn't open file ".toList ++ value ++ ": ".toList ++ reason cause)
      | .ok t => r ← readScript (Read.part (.file value) t) r
    | _ => pure ()
  if !hasScript ∧ operand = [] then editorOptions.refuse []
  r ← readScript Read.finish r
  for c in r.script.commands do
    match c.action with
    | .jump _ label =>
      if label ≠ [] ∧ (r.script.labels.lookup label).isNone then
        Tool.refuse 4 ("can't find label for jump to \x60".toList ++ label ++ ['\''])
    | _ => pure ()
  let outputs ← openOutputs r
  let names := if hasScript then g.operands else g.operands.drop 1
  let suffix := g.value? 'i'
  if suffix.isSome ∧ names = [] then Tool.refuse 4 "no input files".toList
  let m : Manner :=
    { script := r.script, start, suffix, arguments
      quiet := r.quiet || g.has 'n'
      separate := g.has 's' || suffix.isSome
      mark := if g.has 'z' then '\x00' else '\n'
      width := (g.value? 'l').elim 70 fun t => (Text.natural? (t.takeWhile Char.isDigit)).getD 0 }
  let (status, _) ← Edit.run m { names := inputNames names, outputs }
  return status

end LineShell.Utility
