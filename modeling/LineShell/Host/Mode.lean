import LineShell.Text.Basic

/-! Permission bits, as octal digits and as letters. -/
namespace LineShell.Mode

def octal? (t : Text) : Option Nat :=
  if t ≠ [] ∧ t.all fun c => '0' ≤ c && c ≤ '7' then
    some (t.foldl (fun n c => n * 8 + (c.toNat - '0'.toNat)) 0)
  else none

def digits (width n : Nat) : Text :=
  let ds := Nat.toDigits 8 n
  List.replicate (width - ds.length) '0' ++ ds

def who? : Char → Option Nat
  | 'u' => some 0o4700
  | 'g' => some 0o2070
  | 'o' => some 0o1007
  | 'a' => some 0o7777
  | _ => none

def permission? : Char → Option Nat
  | 'r' => some 0o444
  | 'w' => some 0o222
  | 'x' => some 0o111
  | 's' => some 0o6000
  | 't' => some 0o1000
  | _ => none

/-- What the letters of a change grant to everybody. `X` executes what somebody may execute, and a
letter of a group stands for what that group has. -/
def granted? (isDirectory : Bool) (mode : Nat) (letters : Text) : Option Nat :=
  letters.foldl (fun bits c => do
    let bits ← bits
    match c with
    | 'X' => some (if isDirectory ∨ mode &&& 0o111 ≠ 0 then bits ||| 0o111 else bits)
    | 'u' => some (bits ||| (mode >>> 6 &&& 7) * 0o111)
    | 'g' => some (bits ||| (mode >>> 3 &&& 7) * 0o111)
    | 'o' => some (bits ||| (mode &&& 7) * 0o111)
    | c => (permission? c).map (bits ||| ·)) (some 0)

/-- Whether a character says what becomes of permissions. -/
def isAction (c : Char) : Bool := c == '+' || c == '-' || c == '='

/-- Applies the changes of one clause, each an action with letters behind it. -/
def change? (isDirectory : Bool) (whom allowed : Nat) : Nat → Text → Nat → Option Nat
  | 0, _, _ => none
  | _ + 1, [], mode => some mode
  | n + 1, action :: rest, mode =>
    let letters := rest.takeWhile (!isAction ·)
    match granted? isDirectory mode letters with
    | none => none
    | some bits =>
      let bits := bits &&& whom &&& allowed
      let next := rest.drop letters.length
      match action with
      | '+' => change? isDirectory whom allowed n next (mode ||| bits)
      | '-' => change? isDirectory whom allowed n next (mode &&& (0o7777 ^^^ bits))
      | '=' =>
        let kept := mode &&& (0o7777 ^^^ (whom &&& 0o7777))
        change? isDirectory whom allowed n next (kept ||| bits)
      | _ => none

/-- Applies clauses such as `u=rwx,go-w`. Where nobody is named the mask is kept out of everybody's
bits. -/
def changed? (isDirectory : Bool) (mask : Nat) (t : Text) (mode : Nat) : Option Nat :=
  (splitWhere (· == ',') t).foldl (fun mode clause => do
    let mode ← mode
    let names := clause.takeWhile (!isAction ·)
    let changes := clause.drop names.length
    let whom ← names.foldl (fun bits c => do return (← bits) ||| (← who? c)) (some 0)
    let (whom, allowed) := if names = [] then (0o7777, 0o7777 ^^^ mask) else (whom, 0o7777)
    if changes = [] then none
    else change? isDirectory whom allowed (changes.length + 1) changes mode) (some mode)

def letters (bits : Nat) : Text :=
  (if bits &&& 4 ≠ 0 then ['r'] else []) ++ (if bits &&& 2 ≠ 0 then ['w'] else []) ++
    (if bits &&& 1 ≠ 0 then ['x'] else [])

def flags (mode : Nat) : Text :=
  let bit (n : Nat) (c : Char) : Char := if mode &&& n = 0 then '-' else c
  let last (execute special : Nat) (both only : Char) : Char :=
    if mode &&& special = 0 then bit execute 'x' else if mode &&& execute = 0 then only else both
  [bit 0o400 'r', bit 0o200 'w', last 0o100 0o4000 's' 'S', bit 0o040 'r', bit 0o020 'w',
    last 0o010 0o2000 's' 'S', bit 0o004 'r', bit 0o002 'w', last 0o001 0o1000 't' 'T']

def clauses (mode : Nat) : Text :=
  "u=".toList ++ letters (mode >>> 6 &&& 7) ++ ",g=".toList ++ letters (mode >>> 3 &&& 7) ++
    ",o=".toList ++ letters (mode &&& 7)

end LineShell.Mode
