import LineShell.Shell

/-!
Commands to try a shell out with: they show what reaches a command, and end in every way in which a
command can end.
-/
namespace LineShell.Probe

/-- The number that a text with an optional sign stands for, where it has 32 bits. -/
def int32? (t : Text) : Option Int32 :=
  let value := match t with
    | '-' :: digits => (Text.natural? digits).map fun n => -(n : Int)
    | '+' :: digits => (Text.natural? digits).map Int.ofNat
    | digits => (Text.natural? digits).map Int.ofNat
  match value with
  | some n => if -2147483648 ≤ n ∧ n ≤ 2147483647 then some (Int32.ofInt n) else none
  | none => none

def number (arguments : List Text) : Int32 := (arguments.head?.bind int32?).getD 0

def tail (arguments : List Text) : Text := Text.joined [' '] arguments.tail

def jsonChar (c : Char) : Text :=
  match c with
  | '"' => "\\\"".toList
  | '\\' => "\\\\".toList
  | '\n' => "\\n".toList
  | '\r' => "\\r".toList
  | '\t' => "\\t".toList
  | '\x08' => "\\b".toList
  | '\x0c' => "\\f".toList
  | c =>
    if c.toNat < 0x20 then "\\u".toList ++ (Nat.toDigits 16 c.toNat).leftpad 4 '0' else [c]

def jsonArray (texts : List Text) : Text :=
  '[' :: Text.joined [','] (texts.map fun t => '"' :: t.flatMap jsonChar ++ ['"']) ++ [']']

def failWith (fault : Fault) : Command := fun sh => (.error fault, sh)

def commands : List (String × (List Text → Command)) :=
  [("echo", fun arguments => Shell.print (Text.joined [' '] arguments).line),
    ("true", fun _ sh => (.ok 0, sh)),
    ("false", fun _ sh => (.ok 1, sh)),
    ("ret", fun arguments sh => (.ok (number arguments), sh)),
    ("args", fun arguments => Shell.print (jsonArray arguments).line),
    ("err", fun arguments => Shell.putErr (Utf8.encode (Text.joined [' '] arguments).line) 1),
    ("boom", fun arguments => failWith (.plain (Text.joined [' '] arguments))),
    ("usage", fun arguments => failWith (.usage (number arguments) (tail arguments))),
    ("ctx", fun arguments =>
      failWith (.within "outer".toList (.usage (number arguments) (tail arguments)))),
    ("osfail", fun arguments => failWith (.shell (.exec (.os ⟨(number arguments).toInt⟩)))),
    ("pwd", fun _ sh => Shell.print sh.session.directory.text.line sh),
    ("st", fun _ sh => Shell.print sh.session.lastStatus.text.line sh)]

def factory : Factory := fun _ name arguments =>
  (commands.find? (·.1.toList == name)).map (·.2 arguments)

end LineShell.Probe
