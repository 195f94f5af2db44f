import LineShell.Host.Script.Builtin.Basic

/-! How much a process may use of what the system has: `ulimit`. -/
namespace LineShell.Script.Builtin

structure Resource where
  letter : Char
  name : String
  /-- How much one unit of the number is. -/
  unit : Nat := 1

/-- All that is limited, in the order in which it is listed. -/
def resources : List Resource :=
  [⟨'t', "time(seconds)", 1⟩, ⟨'f', "file(blocks)", 512⟩, ⟨'d', "data(kbytes)", 1024⟩,
    ⟨'s', "stack(kbytes)", 1024⟩, ⟨'c', "coredump(blocks)", 512⟩, ⟨'m', "memory(kbytes)", 1024⟩,
    ⟨'l', "locked memory(kbytes)", 1024⟩, ⟨'p', "process", 1⟩, ⟨'n', "nofiles", 1⟩,
    ⟨'v', "vmemory(kbytes)", 1024⟩, ⟨'w', "locks", 1⟩, ⟨'r', "rtprio", 1⟩]

/-- The limits of a kind of thing: what counts, and how far that can be raised. -/
def limitsOf (p : Process) (letter : Char) : Limits := (p.limits.lookup letter).getD {}

/-- The number that a text writes; there may be none. -/
def limit? (unit : Nat) (t : Text) : Step (Option Nat) := do
  if t = "unlimited".toList then return none
  else if t.all Char.isDigit then return some ((Text.natural? t).getD 0 * unit)
  else Step.fail "bad number".toList

def shownLimit (unit : Nat) : Option Nat → Text
  | none => "unlimited".toList
  | some n => Text.decimal (n / unit)

def limit (arguments : List Text) : Step Nat := do
  let (letters, operands) ← options "HSatfdscmlpnvwr" arguments
  let ways := letters.filter fun c => c == 'H' || c == 'S'
  let (soft, hard) := match ways.getLast? with
    | some 'H' => (false, true)
    | some _ => (true, false)
    | none => (true, true)
  let shown (r : Resource) (l : Limits) : Text := shownLimit r.unit (if soft then l.soft else l.hard)
  let kind := (letters.filter fun c => c != 'H' && c != 'S' && c != 'a').getLastD 'f'
  let all := letters.contains 'a'
  let p ← Step.self
  match operands with
  | [] =>
    for r in resources do
      let t := shown r (limitsOf p r.letter)
      if all then
        let space := List.replicate (20 - r.name.length) ' '
        Step.printLine (r.name.toList ++ space ++ ' ' :: t)
      else if r.letter = kind then Step.printLine t
    return 0
  | t :: more =>
    if all ∨ more ≠ [] then Step.fail "too many arguments".toList
    let unit := ((resources.find? (·.letter == kind)).map Resource.unit).getD 1
    let n ← limit? unit t
    let old := limitsOf p kind
    let new : Limits := ⟨if soft then n else old.soft, if hard then n else old.hard⟩
    let exceeds (a b : Option Nat) : Bool :=
      b.any fun b => a.all (b < ·)
    let refuse (errno : Errno) : Step Nat :=
      Step.fail ("error setting limit: ".toList ++ errno.text)
    if exceeds new.soft new.hard then refuse .invalidArgument
    else if exceeds new.hard old.hard then refuse .notPermitted
    else
      Step.perform (.alter fun p =>
        { p with limits := (kind, new) :: p.limits.filter (·.1 != kind) })
      return 0

end LineShell.Script.Builtin
