import LineShell.Host.Calendar
import LineShell.Host.Zone.Records

/-!
Time zones: what clocks show at a moment, and which moment it is when they show a time. A zone is
written as the name of a place or as a rule such as `CET-1CEST,M3.5.0,M10.5.0/3`: a name and how far
the clocks are behind, and the same for the summer with the days on which that begins and ends.
-/
namespace LineShell

inductive YearDay
  /-- From 1 on; there is no 29 February. -/
  | julian (n : Nat)
  /-- From 0 on. -/
  | counted (n : Nat)
  /-- A weekday of a month; the fifth one is the last. -/
  | weekday (month week day : Nat)
  deriving DecidableEq

/-- A day, and the time of the day in seconds, at which clocks are changed. -/
structure ClockTurn where
  day : YearDay
  time : Int := 7200

structure Summer where
  name : Text
  ahead : Int
  start : ClockTurn
  stop : ClockTurn

/-- What clocks show in every year; how far they are ahead is in seconds. -/
structure ClockRule where
  name : Text
  ahead : Int
  summer : Option Summer := none

/-- What clocks have shown: rules, the last first, and the moments since when they have held. -/
structure Zone where
  later : List (Int × ClockRule) := []
  first : ClockRule

namespace YearDay

/-- The days from 1 January 1970 to such a day of a year. -/
def daysTo (year : Int) : YearDay → Int
  | julian n =>
    let isLong := Calendar.yearLength year == 366 && 60 ≤ n
    Calendar.daysTo year 1 1 + n - 1 + (if isLong then 1 else 0)
  | counted n => Calendar.daysTo year 1 1 + n
  | weekday month week day =>
    let first := Calendar.daysTo year month 1
    let length := (if month = 12 then Calendar.daysTo (year + 1) 1 1 else
      Calendar.daysTo year (month + 1) 1) - first
    let offset := ((day : Int) - (first + 4)).emod 7
    let n := offset + 7 * ((week : Int) - 1)
    first + (if length ≤ n then n - 7 else n)

end YearDay

namespace ClockRule

/-- What clocks show at a moment: the name of the time, and how far they are ahead. -/
def shown (r : ClockRule) (seconds : Int) : Text × Int :=
  match r.summer with
  | none => (r.name, r.ahead)
  | some s =>
    let year := (Calendar.momentOf (seconds + r.ahead)).year
    let moment (t : ClockTurn) (ahead : Int) : Int :=
      t.day.daysTo year * Calendar.daySeconds + t.time - ahead
    let start := moment s.start r.ahead
    let stop := moment s.stop s.ahead
    let isSummer := if start < stop then start ≤ seconds && seconds < stop
      else !(stop ≤ seconds && seconds < start)
    if isSummer then (s.name, s.ahead) else (r.name, r.ahead)

end ClockRule

namespace Zone

def utc : Zone := { first := { name := "UTC".toList, ahead := 0 } }

/-- What clocks show at a moment: the name of the time, and how far they are ahead. -/
def shown (z : Zone) (seconds : Int) : Text × Int :=
  match z.later.find? fun (start, _) => start ≤ seconds with
  | some (_, rule) => rule.shown seconds
  | none => z.first.shown seconds

def ahead (z : Zone) (seconds : Int) : Int := (z.shown seconds).2

/-- The day and the time that clocks show at a moment. -/
def momentOf (z : Zone) (seconds : Int) : Moment := Calendar.momentOf (seconds + z.ahead seconds)

/-- The moments at which clocks show a time, which is in seconds as if they were not ahead. The one
by the time that holds when they are not ahead comes first. -/
def momentsOf (z : Zone) (clock : Int) : List Int :=
  let candidates := [clock, clock - Calendar.daySeconds, clock + Calendar.daySeconds].map fun seconds =>
    clock - z.ahead seconds
  candidates.filter fun seconds => seconds + z.ahead seconds == clock

/-- The moment at which clocks show a time. One that is passed over is counted on from before. -/
def secondsTo (z : Zone) (clock : Int) : Int :=
  ((z.momentsOf clock).head?).getD (clock - z.ahead (clock - Calendar.daySeconds))

/-! ### Reading -/

/-- Takes a name: letters, or anything in angle brackets. -/
def takeName? : Text → Option (Text × Text)
  | '<' :: rest => Text.cut? '>' rest
  | t =>
    let name := t.takeWhile Char.isAlpha
    if 3 ≤ name.length then some (name, t.drop name.length) else none

/-- Takes hours, and perhaps minutes and seconds behind colons. -/
def takeClock? (t : Text) : Option (Int × Text) :=
  let (negative, t) : Bool × Text := match t with
    | '-' :: rest => (true, rest)
    | '+' :: rest => (false, rest)
    | _ => (false, t)
  let hours := t.takeWhile Char.isDigit
  let next (t : Text) : Nat × Text := match t with
    | ':' :: rest =>
      let digits := rest.takeWhile Char.isDigit
      ((Text.natural? digits).getD 0, rest.drop digits.length)
    | _ => (0, t)
  (Text.natural? hours).map fun hours' =>
    let (minutes, rest) := next (t.drop hours.length)
    let (seconds, rest) := next rest
    let n : Int := (hours' * 3600 + minutes * 60 + seconds : Nat)
    (if negative then -n else n, rest)

def bounded (n : Int) : Int := if 90000 ≤ n then 86400 else if n ≤ -90000 then -86400 else n

def takeDay? : Text → Option (YearDay × Text)
  | 'J' :: rest =>
    let digits := rest.takeWhile Char.isDigit
    (Text.natural? digits).map fun n => (.julian n, rest.drop digits.length)
  | 'M' :: rest =>
    let body := rest.takeWhile fun c => c.isDigit || c == '.'
    match (splitWhere (· == '.') body).map Text.natural? with
    | [some month, some week, some day] =>
      if 1 ≤ month ∧ month ≤ 12 ∧ 1 ≤ week ∧ week ≤ 5 ∧ day ≤ 6 then
        some (.weekday month week day, rest.drop body.length)
      else none
    | _ => none
  | t =>
    let digits := t.takeWhile Char.isDigit
    (Text.natural? digits).map fun n => (.counted n, t.drop digits.length)

/-- Takes a day behind a comma, with a time if there is one. -/
def takeTurn? : Text → Option (ClockTurn × Text)
  | ',' :: rest =>
    match takeDay? rest with
    | some (day, '/' :: rest) => (takeClock? rest).map fun (time, rest) => ({ day, time }, rest)
    | some (day, rest) => some ({ day }, rest)
    | none => none
  | _ => none

/-- When summer begins and ends where nothing is said about it. -/
def usualTurns : ClockTurn × ClockTurn := ({ day := .weekday 3 2 0 }, { day := .weekday 11 1 0 })

def readRule? (t : Text) : Option ClockRule :=
  match takeName? t with
  | none => none
  | some (name, rest) =>
    match takeClock? rest with
    | none => none
    | some (behind, rest) =>
      let ahead := -bounded behind
      match takeName? rest with
      | none => some { name, ahead }
      | some (other, rest) =>
        let (summerAhead, rest) := match takeClock? rest with
          | some (n, rest) => (-bounded n, rest)
          | none => (ahead + 3600, rest)
        let (start, stop) := match takeTurn? rest with
          | none => usualTurns
          | some (start, rest) => (start, ((takeTurn? rest).map (·.1)).getD usualTurns.2)
        some { name, ahead, summer := some { name := other, ahead := summerAhead, start, stop } }

def ofRule? (t : Text) : Option Zone := (readRule? t).map fun first => { first }

def ofPlace? (name : Text) : Option Zone :=
  let name := ((otherNames.find? fun (other, _) => other.toList == name).map
    fun (_, name) => name.toList).getD name
  match records.find? fun r => r.name.toList == name with
  | some r =>
    (readRule? r.first.toList).map fun first =>
      { first, later := r.later.filterMap fun (start, rule) => (readRule? rule.toList).map (start, ·) }
  | none =>
    match steady.find? fun (other, _) => other.toList == name with
    | some (_, rule) => ofRule? rule.toList
    | none => fixed? name
where
  /-- Zones such as `Etc/GMT+3`. -/
  fixed? (name : Text) : Option Zone :=
    if "Etc/GMT".toList.isPrefixOf name then
      (takeClock? (name.drop 7)).map fun (n, _) =>
        let hours := Calendar.twoDigits (n.natAbs / 3600)
        { first := { name := (if 0 < n then '-' else '+') :: hours, ahead := -n } }
    else none

def folder : Text := "/usr/share/zoneinfo/".toList

/-- The zone that a text names. A name that is not known stands for a zone in which clocks are not
ahead. -/
def ofText (t : Text) : Zone :=
  let t := if t.head? = some ':' then t.tail else t
  let t := if folder.isPrefixOf t then t.drop folder.length else t
  if t = [] then utc
  else
    match (ofPlace? t).orElse fun _ => ofRule? t with
    | some z => z
    | none => { first := { name := ((takeName? t).map (·.1)).getD [], ahead := 0 } }

end Zone
end LineShell
