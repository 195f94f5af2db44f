import LineShell.Text.Basic

/-! Names side by side in lines of a width. -/
namespace LineShell.Utility.Columns

def separatedFrom (width : Nat) : Nat → List Text → Text
  | _, [] => []
  | position, name :: rest =>
    if position + name.length + 2 < width then
      ", ".toList ++ name ++ separatedFrom width (position + name.length + 2) rest
    else ",\n".toList ++ name ++ separatedFrom width name.length rest

/-- Names with commas between them, in lines of a width. -/
def separated (width : Nat) : List Text → Text
  | [] => ['\n']
  | name :: rest => (name ++ separatedFrom width name.length rest).line

def tabSize : Nat := 8

/-- Space from one column to another, tabs where they reach far enough. -/
def indent : Nat → Nat → Nat → Text
  | 0, _, _ => []
  | fuel + 1, start, goal =>
    if goal ≤ start then []
    else if (start + 1) / tabSize < goal / tabSize then
      '\t' :: indent fuel (start + tabSize - start % tabSize) goal
    else ' ' :: indent fuel (start + 1) goal

def row (widths : List Nat) (names : List Text) : Text :=
  let rec go (position : Nat) : List Nat → List Text → Text
    | _, [] => []
    | _, [name] => name
    | width :: widths, name :: rest =>
      let goal := position + width
      name ++ indent width (position + name.length) goal ++ go goal widths rest
    | [], name :: rest => name ++ ' ' :: go (position + name.length + 1) [] rest
  (go 0 widths names).line

/-- Rows of names, and how wide each column is. -/
structure Table where
  rows : List (List Text)
  widths : List Nat

namespace Table

def ofColumns (down : Bool) (names : List Text) (columns : Nat) : Table :=
  let height := (names.length + columns - 1) / columns
  let column (i : Nat) : Nat := if down then i / height else i % columns
  let line (i : Nat) : Nat := if down then i % height else i / columns
  let rows := (List.range height).map fun r =>
    (names.zipIdx.filter fun (_, i) => line i == r).map (·.1)
  let last := if down then (names.length - 1) / height else columns - 1
  let widths := (List.range columns).map fun c =>
    let gap := if c = last then 0 else 2
    ((names.zipIdx.filter fun (_, i) => column i == c).map fun (t, _) => t.length + gap).max?.getD 3
  { rows, widths }

def fits (width : Nat) (t : Table) : Bool := decide (sumOf t.widths < width)

def text (t : Table) : Text := t.rows.flatMap (row t.widths)

end Table

def table (down : Bool) (width : Nat) (names : List Text) : Text :=
  if names = [] then []
  else
    let most := min names.length (max 1 ((width + 2) / 3))
    let tables := ((List.range most).reverse.map fun n => Table.ofColumns down names (n + 1))
    ((tables.find? (Table.fits width)).getD (Table.ofColumns down names 1)).text

def down (width : Nat) (names : List Text) : Text := table true width names

def across (width : Nat) (names : List Text) : Text := table false width names

end LineShell.Utility.Columns
