import LineShell.Host.System

/-! What the system shows of its processes, as files under `/proc`. -/
namespace LineShell

namespace System

def nulEnded (texts : List Text) : Bytes := texts.flatMap fun t => Text.toBytes t ++ [0]

def pathOf (s : System) (number : Nat) : Path :=
  match s.opened[number]? with
  | some f =>
    match f.source with
    | .stream n =>
      if f.path.octets = [] then ⟨"pipe:[".toList ++ Text.decimal (10000 + n) ++ [']']⟩ else f.path
    | _ => f.path
  | none => ⟨[]⟩

def summary (p : Process) : Text :=
  let entry (name : String) (value : Text) : Text := Text.line (name.toList ++ ":\t".toList ++ value)
  entry "Name" p.title ++
    entry "Umask" ('0' :: (Nat.toDigits 8 p.mask).leftpad 3 '0') ++
    entry "State" "R (running)".toList ++ entry "Tgid" (Text.decimal p.id) ++
    entry "Ngid" ['0'] ++ entry "Pid" (Text.decimal p.id) ++ entry "PPid" (Text.decimal p.parent)

def processNode (s : System) (p : Process) : Node :=
  let text (t : Unit → Text) : Node := .made fun u => Text.toBytes (t u)
  let open' := (p.descriptors.mergeSort fun a b => decide (a.1 ≤ b.1)).map fun (n, file) =>
    (Text.decimal n, Node.handle file (s.pathOf file))
  .directory 0
    [("cmdline".toList, .made fun _ => nulEnded p.arguments),
      ("comm".toList, text fun _ => Text.line p.title),
      ("cwd".toList, .link p.directory.path), ("environ".toList, .made fun _ => nulEnded p.environment),
      ("exe".toList, .link p.program), ("fd".toList, .directory 0 open'),
      ("root".toList, .link ⟨['/']⟩), ("status".toList, text fun _ => summary p)]

def processRoot : Location := ["proc".toList]

def settingsNode : Node :=
  let kernel := [("ostype".toList, Node.made fun _ => Text.toBytes "Linux\n".toList)]
  .directory 0 [("fs".toList, .directory 0 []), ("kernel".toList, .directory 0 kernel),
    ("net".toList, .directory 0 []), ("vm".toList, .directory 0 [])]

/-- The files of all processes, as one of them finds them. The first process is there even if
nothing else is known of it. -/
def processFiles (s : System) (self : Nat) : Node :=
  let first : List Process := if (s.process? 1).isSome then [] else [{ id := 1 }]
  .directory 0 (("self".toList, .link ⟨Text.decimal self⟩) :: ("sys".toList, settingsNode) ::
    (first ++ s.processes).map fun p => (Text.decimal p.id, s.processNode p))

def view (s : System) (self : Nat) : FileSystem :=
  match s.files.root.at? processRoot with
  | none => s.files
  | some _ =>
    { s.files with root := s.files.root.alter (fun _ => some (s.processFiles self)) processRoot }

def accept (s : System) (files : FileSystem) : System :=
  match s.files.root.at? processRoot with
  | none => { s with files }
  | some node =>
    { s with files := { files with root := files.root.alter (fun _ => some node) processRoot } }

end System
end LineShell
