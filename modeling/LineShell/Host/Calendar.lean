import LineShell.Text.Basic

/-! Days and times of the calendar, without any time zone. -/
namespace LineShell

/-- A moment as the calendar and the clock show it. -/
structure Moment where
  year : Int := 1970
  /-- From 1 on. -/
  month : Nat := 1
  /-- From 1 on. -/
  day : Nat := 1
  hour : Nat := 0
  minute : Nat := 0
  second : Nat := 0
  deriving DecidableEq, Repr

namespace Calendar

def daySeconds : Nat := 86400

/-- The number of days from 1 January 1970 to a day. A day beyond the end of its month is a day of
the next one. -/
def daysTo (year : Int) (month : Nat) (day : Int) : Int :=
  let shifted := month + 9
  let y := if 3 ≤ month then year else year - 1
  let era := y.fdiv 400
  let ofEra := y - era * 400
  let ofYear : Int := ((153 * (shifted % 12) + 2) / 5 : Nat) + day - 1
  era * 146097 + (ofEra * 365 + ofEra / 4 - ofEra / 100 + ofYear) - 719468

/-- The year, month and day that come so many days behind 1 January 1970. -/
def dateOf (days : Int) : Int × Nat × Nat :=
  let z := days + 719468
  let era := z.fdiv 146097
  let d := z - era * 146097
  let ofEra := (d - d / 1460 + d / 36524 - d / 146096) / 365
  let ofYear := d - (365 * ofEra + ofEra / 4 - ofEra / 100)
  let m := (5 * ofYear + 2) / 153
  let day := ofYear - (153 * m + 2) / 5 + 1
  let month := if m < 10 then m + 3 else m - 9
  (ofEra + era * 400 + (if month ≤ 2 then 1 else 0), month.toNat, day.toNat)

/-- The moment that comes so many seconds behind the start of 1970. -/
def momentOf (seconds : Int) : Moment :=
  let days := seconds.fdiv daySeconds
  let rest := (seconds - days * daySeconds).toNat
  let (year, month, day) := dateOf days
  { year, month, day, hour := rest / 3600, minute := rest / 60 % 60, second := rest % 60 }

/-- How many seconds a moment comes behind the start of 1970. -/
def secondsTo (m : Moment) : Int :=
  daysTo m.year m.month m.day * daySeconds + (m.hour * 3600 + m.minute * 60 + m.second : Nat)

def weekday (m : Moment) : Nat := ((daysTo m.year m.month m.day + 4).emod 7).toNat

def dayOfYear (m : Moment) : Nat :=
  (daysTo m.year m.month m.day - daysTo m.year 1 1).toNat + 1

def yearLength (year : Int) : Nat := (daysTo (year + 1) 1 1 - daysTo year 1 1).toNat

def months : List String :=
  ["January", "February", "March", "April", "May", "June", "July", "August", "September", "October",
    "November", "December"]

def weekdays : List String :=
  ["Sunday", "Monday", "Tuesday", "Wednesday", "Thursday", "Friday", "Saturday"]

def monthName (m : Moment) : Text := (months.getD (m.month - 1) "").toList

def dayName (m : Moment) : Text := (weekdays.getD (weekday m) "").toList

def filled (fill : Char) (width : Nat) (n : Int) : Text :=
  let digits := Text.decimal n.natAbs
  let sign := if n < 0 then ['-'] else []
  sign ++ List.replicate (width - sign.length - digits.length) fill ++ digits

def twoDigits (n : Nat) : Text := filled '0' 2 n

/-- The week of the year by the international rule: weeks start on Monday, and the first one has the
first Thursday. The year is that of the week. -/
def isoWeek (m : Moment) : Int × Nat :=
  let fromMonday := (weekday m + 6) % 7
  let thursday : Int := dayOfYear m + 3 - fromMonday
  if thursday < 1 then
    (m.year - 1, ((thursday + yearLength (m.year - 1) - 1) / 7).toNat + 1)
  else if yearLength m.year < thursday then (m.year + 1, 1)
  else (m.year, ((thursday - 1) / 7).toNat + 1)

end Calendar
end LineShell
