import LineShell.Host.Utility.Records.Value
import Std.Data.HashMap

/-!
Values by key. The keys come in an order that can be seen when all of them are gone through: each
has a place that its text decides, and among keys of one place the one that was asked for last comes
first.
-/
namespace LineShell.Records

inductive Key
  | whole (i : Int)
  | name (t : Text)

/-- The text of a key, which decides whether two are the same. -/
def Key.text : Key → Text
  | .whole i => Text.signed i
  | .name t => t

def firstPlaces : Nat := 64

/-- How many keys a place has on average before there are more places. -/
def crowd : Nat := 12

structure Associations where
  /-- The values by the texts of their keys. -/
  values : Std.HashMap String Value := {}
  /-- The keys are the whole numbers from one on, and have no places yet. -/
  isRow : Bool := false
  /-- The keys that were asked for by text, by place. -/
  names : Array (List Text) := #[]
  /-- The keys that were asked for as numbers, by place. -/
  wholes : Array (List Int) := #[]
  /-- Every key is among the names. -/
  isNamed : Bool := false

namespace Associations

def size (a : Associations) : Nat := a.values.size

def hash (t : Text) : UInt32 :=
  t.foldl (fun h c => (h ^^^ UInt32.ofNat c.toNat) * 16777619) 2166136261

def placeOf (places : Nat) (t : Text) : Nat := (hash t).toNat % places

def placeOfWhole (places : Nat) (i : Int) : Nat := (i % places).toNat

def empty (places : Nat) : Associations :=
  { names := Array.replicate places [], wholes := Array.replicate places [] }

def ofList (parts : List Value) : Associations :=
  let step (state : Std.HashMap String Value × Nat) (v : Value) : Std.HashMap String Value × Nat :=
    (state.1.insert (String.ofList (Text.decimal state.2)) v, state.2 + 1)
  { values := (parts.foldl step ({}, 1)).1, isRow := true }

def putName (a : Associations) (t : Text) : Associations :=
  { a with names := a.names.modify (placeOf a.names.size t) (t :: ·) }

def putWhole (a : Associations) (i : Int) : Associations :=
  { a with wholes := a.wholes.modify (placeOfWhole a.wholes.size i) (i :: ·) }

def withPlaces (a : Associations) : Associations :=
  if a.isRow then
    let rec double : Nat → Nat → Nat
      | 0, places => places
      | fuel + 1, places => if places * crowd < a.size then double fuel (2 * places) else places
    let new := { empty (double a.size firstPlaces) with values := a.values }
    (List.range a.size).foldl (fun new i => new.putWhole (i + 1 : Nat)) new
  else if a.names.isEmpty then { empty firstPlaces with values := a.values }
  else a

def withNames (a : Associations) : Associations :=
  let a := a.withPlaces
  if a.isNamed then a
  else
    let a := a.wholes.foldl (fun a whole => whole.foldl (fun a i => a.putName (Text.signed i)) a) a
    { a with isNamed := true }

/-- Makes room for one more key: when a place has too many there are twice as many places, and the
keys of one are distributed among two. -/
def withRoom (a : Associations) : Associations :=
  let places := a.names.size
  if a.size < places * crowd then a
  else
    let far (t : Text) : Bool := places ≤ placeOf (2 * places) t
    let farWhole (i : Int) : Bool := places ≤ placeOfWhole (2 * places) i
    { a with
      names := a.names.map (·.filter (!far ·)) ++ a.names.map (·.filter far)
      wholes := a.wholes.map (·.filter (!farWhole ·)) ++ a.wholes.map (·.filter farWhole) }

/-- Finds a key by its text, and makes it the first of its place. One that is not there is added if
`creates` says so. -/
def seekName (a : Associations) (creates : Bool) (t : Text) : Bool × Associations :=
  let a := a.withNames
  if a.values.contains (String.ofList t) then
    let place := placeOf a.names.size t
    let names := match (a.names[place]?).getD [] with
      | first :: _ => if first = t then a.names else a.names.modify place fun l => t :: l.erase t
      | [] => a.names
    (true, { a with names })
  else if creates then
    let a := a.withRoom.putName t
    (true, { a with values := a.values.insert (String.ofList t) .unset })
  else (false, a)

/-- Finds a number, and makes it the first of its place. One that is not there is added if `creates`
says so. -/
def seekWhole (a : Associations) (creates : Bool) (i : Int) : Bool × Associations :=
  let isPart := 1 ≤ i && i ≤ a.size
  if a.isRow ∧ (isPart ∨ !creates) then (isPart, a)
  else
    let a := a.withPlaces
    let place := placeOfWhole a.wholes.size i
    let here := (a.wholes[place]?).getD []
    if here.contains i then
      let wholes := if here.head? = some i then a.wholes
        else a.wholes.modify place fun l => i :: l.erase i
      (true, { a with wholes })
    else if a.isNamed then
      let (found, a) := a.seekName creates (Text.signed i)
      (found, if found then a.putWhole i else a)
    else if creates then
      let a := a.withRoom.putWhole i
      (true, { a with values := a.values.insert (String.ofList (Text.signed i)) .unset })
    else (false, a)

def seek (a : Associations) (creates : Bool) (k : Key) : Bool × Associations :=
  if a.values.isEmpty ∧ !creates then (false, a)
  else
    match k with
    | .whole i => a.seekWhole creates i
    | .name t => a.seekName creates t

def contains (a : Associations) (k : Key) : Bool × Associations := a.seek false k

def get (a : Associations) (k : Key) : Value × Associations :=
  let (_, a) := a.seek true k
  ((a.values[String.ofList k.text]?).getD .unset, a)

def set (a : Associations) (k : Key) (v : Value) : Associations :=
  let (_, a) := a.seek true k
  { a with values := a.values.insert (String.ofList k.text) v }

def erase (a : Associations) (k : Key) : Associations :=
  let (found, b) := a.seek false k
  if !found then b
  else
    let b := b.withPlaces
    let t := k.text
    let b := { b with
      values := b.values.erase (String.ofList t)
      names := b.names.modify (placeOf b.names.size t) (·.erase t)
      wholes := match apparentWhole? t with
        | some i => b.wholes.modify (placeOfWhole b.wholes.size i) (·.erase i)
        | none => b.wholes }
    if b.values.isEmpty then {} else b
where
  /-- The number whose text a key is. -/
  apparentWhole? (t : Text) : Option Int :=
    let i : Option Int := match t with
      | '-' :: digits => (Text.natural? digits).map fun n => -(n : Int)
      | digits => (Text.natural? digits).map Int.ofNat
    i.filter fun i => Text.signed i == t

def keys (a : Associations) : List Text × Associations :=
  if a.values.isEmpty then ([], a)
  else
    let a := a.withNames
    (a.names.toList.flatten, a)

end Associations
end LineShell.Records
