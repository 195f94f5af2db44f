import LineShell.Host.Zone.Basic

/-! Reading times that are written in words and figures, and writing them by a format. -/
namespace LineShell.Utility.DateText

/-! ### Reading -/

/-- The words and figures that a time is written with. -/
inductive Part
  | number (sign : Option Char) (digits : Text)
  | word (t : Text)
  | sign (c : Char)
  deriving DecidableEq

/-- Whether a character only keeps parts from each other. -/
def isBlank (c : Char) : Bool := c == ' ' || ('\t' ≤ c && c ≤ '\r')

/-- Cuts a text into its parts. Blanks part them, and what stands in brackets does not count, nor
does a sign that stands in front of no number. -/
def parts : Nat → Text → List Part
  | 0, _ => []
  | _ + 1, [] => []
  | fuel + 1, c :: rest =>
    if isBlank c then parts fuel rest
    else if c.isDigit then
      let digits := (c :: rest).takeWhile Char.isDigit
      .number none digits :: parts fuel ((c :: rest).drop digits.length)
    else if c = '-' ∨ c = '+' then
      let number := rest.dropWhile isBlank
      match number.takeWhile Char.isDigit with
      | [] => parts fuel rest
      | digits => .number (some c) digits :: parts fuel (number.drop digits.length)
    else if c.isAlpha then
      let word := (c :: rest).takeWhile fun c => c.isAlpha || c == '.'
      .word ((word.filter (· != '.')).map Char.toLower) :: parts fuel ((c :: rest).drop word.length)
    else if c = '(' then parts fuel ((rest.dropWhile (· != ')')).drop 1)
    else .sign c :: parts fuel rest

structure Reading where
  date : Option (Int × Nat × Nat) := none
  /-- Hours, minutes and seconds. -/
  time : Option (Nat × Nat × Nat) := none
  nanoseconds : Nat := 0
  /-- How many seconds the clock is ahead. -/
  zone : Option Int := none
  /-- The name of the time that clocks here are to show. -/
  shown : Option Text := none
  absolute : Option Int := none
  months : Int := 0
  days : Int := 0
  seconds : Int := 0
  weekday : Option (Int × Nat) := none
  /-- A date or a time has been moved, so the time of day stays as it is. -/
  isMoved : Bool := false

/-- The number of a month by its name, or by the first three letters of it. -/
def month? (t : Text) : Option Nat :=
  (Calendar.months.findIdx? fun name =>
    let name := name.toList.map Char.toLower
    t == name || (t == name.take 3) || (t == "sept".toList && name.take 3 == t.take 3)).map (· + 1)

def weekday? (t : Text) : Option Nat :=
  Calendar.weekdays.findIdx? fun name =>
    let name := name.toList.map Char.toLower
    t == name || t == name.take 3 || (3 < t.length && t == name.take 4) ||
      (t == "thurs".toList && name.take 5 == t)

def unit? (t : Text) : Option (Int × Int × Int) :=
  let t := if t.getLast? = some 's' ∧ 3 < t.length then t.dropLast else t
  match String.ofList t with
  | "year" => some (12, 0, 0)
  | "month" => some (1, 0, 0)
  | "fortnight" => some (0, 14, 0)
  | "week" => some (0, 7, 0)
  | "day" => some (0, 1, 0)
  | "hour" => some (0, 0, 3600)
  | "minute" | "min" => some (0, 0, 60)
  | "second" | "sec" => some (0, 0, 1)
  | _ => none

def ordinal? (t : Text) : Option Int :=
  match String.ofList t with
  | "last" => some (-1)
  | "this" => some 0
  | "next" | "first" => some 1
  | "third" => some 3
  | "fourth" => some 4
  | "fifth" => some 5
  | "sixth" => some 6
  | "seventh" => some 7
  | "eighth" => some 8
  | "ninth" => some 9
  | "tenth" => some 10
  | "eleventh" => some 11
  | "twelfth" => some 12
  | _ => none

/-- How far the clocks of a zone are ahead, in seconds. -/
def zone? (t : Text) : Option Int :=
  match String.ofList t with
  | "utc" | "gmt" | "ut" | "z" | "wet" => some 0
  | "est" => some (-18000)
  | "edt" | "cdt" => some (if t.head? = some 'e' then -14400 else -18000)
  | "cst" => some (-21600)
  | "mst" | "pdt" => some (-25200)
  | "pst" => some (-28800)
  | "cet" | "met" | "bst" => some 3600
  | "cest" | "eet" => some 7200
  | _ => none

def value (digits : Text) : Nat := (Text.natural? digits).getD 0

def yearOf (digits : Text) : Int :=
  let n := value digits
  if digits.length ≤ 2 then (if n < 69 then n + 2000 else n + 1900) else n

def offsetOf (sign : Char) (digits minutes : Text) : Int :=
  let seconds :=
    if minutes ≠ [] then value digits * 3600 + value minutes * 60
    else if digits.length ≤ 2 then value digits * 3600
    else value digits / 100 * 3600 + value digits % 100 * 60
  if sign = '-' then -(seconds : Int) else seconds

def Reading.move (r : Reading) (n : Int) (unit : Int × Int × Int) : Reading :=
  let (months, days, seconds) := unit
  { r with
    months := r.months + n * months, days := r.days + n * days
    seconds := r.seconds + n * seconds, isMoved := true }

/-- Nanoseconds that digits behind a point stand for. -/
def fractionOf (digits : Text) : Nat :=
  value ((digits ++ List.replicate 9 '0').take 9)

/-- Takes in parts; none comes back if they do not make up a time. Some names are those of the times
that clocks here show. -/
def readParts (isLocal : Text → Bool) : Nat → Reading → List Part → Option Reading
  | 0, _, _ => none
  | _ + 1, r, [] => some r
  | fuel + 1, r, ps =>
    let zoned (r : Reading) (rest : List Part) : Option Reading :=
      match rest with
      | .number (some sign) d :: .sign ':' :: .number none m :: rest =>
        readParts isLocal fuel { r with zone := some (offsetOf sign d m) } rest
      | .number (some sign) d :: rest =>
        readParts isLocal fuel { r with zone := some (offsetOf sign d []) } rest
      | rest => readParts isLocal fuel r rest
    let clock (r : Reading) (h m : Text) (s : Nat) (rest : List Part) : Option Reading :=
      let hour := value h
      if 59 < value m ∨ 59 < s ∨ 23 < hour then none
      else
        match rest with
        | .word ['a', 'm'] :: rest =>
          if hour = 0 ∨ 12 < hour then none
          else readParts isLocal fuel { r with time := some (hour % 12, value m, s) } rest
        | .word ['p', 'm'] :: rest =>
          if hour = 0 ∨ 12 < hour then none
          else readParts isLocal fuel { r with time := some (hour % 12 + 12, value m, s) } rest
        | rest => zoned { r with time := some (hour, value m, s) } rest
    let dated (y : Int) (m d : Nat) (rest : List Part) : Option Reading :=
      if m = 0 ∨ 12 < m ∨ d = 0 ∨ 31 < d then none
      else
        match rest with
        | .word ['t'] :: rest => readParts isLocal fuel { r with date := some (y, m, d) } rest
        | rest => readParts isLocal fuel { r with date := some (y, m, d) } rest
    let year : Int := (r.date.map (·.1)).getD (-1)
    match ps with
    | [.sign '@', .number sign d, .sign mark, .number none f] =>
      let part := fractionOf f
      if mark ≠ '.' ∧ mark ≠ ',' then none
      else if sign = some '-' ∧ 0 < part then
        some { r with absolute := some (-(value d : Int) - 1), nanoseconds := 1000000000 - part }
      else
        let n : Int := if sign = some '-' then -(value d : Int) else value d
        some { r with absolute := some n, nanoseconds := part }
    | [.sign '@', .number sign d] =>
      let n : Int := if sign = some '-' then -(value d : Int) else value d
      some { r with absolute := some n }
    | .number none y :: .number (some '-') m :: .number (some '-') d :: rest =>
      dated (yearOf y) (value m) (value d) rest
    | .number none a :: .sign '/' :: .number none b :: .sign '/' :: .number none c :: rest =>
      if 3 < a.length then dated (value a) (value b) (value c) rest
      else dated (yearOf c) (value a) (value b) rest
    | .number none a :: .sign '/' :: .number none b :: rest => dated year (value a) (value b) rest
    | .number none h :: .sign ':' :: .number none m :: .sign ':' :: .number none s :: .sign '.' ::
        .number none f :: rest => clock { r with nanoseconds := fractionOf f } h m (value s) rest
    | .number none h :: .sign ':' :: .number none m :: .sign ':' :: .number none s :: rest =>
      clock r h m (value s) rest
    | .number none h :: .sign ':' :: .number none m :: rest => clock r h m 0 rest
    | .number none h :: .word ['a', 'm'] :: rest => clock r h ['0'] 0 (.word ['a', 'm'] :: rest)
    | .number none h :: .word ['p', 'm'] :: rest => clock r h ['0'] 0 (.word ['p', 'm'] :: rest)
    | .number none d :: .number (some '-') y :: rest =>
      if r.date.isNone ∧ rest = [] then none
      else readParts isLocal fuel r (.number none d :: .number none y :: rest)
    | .number sign d :: .word t :: rest =>
      match unit? t with
      | some unit =>
        let n : Int := if sign = some '-' then -(value d : Int) else value d
        match rest with
        | .word ['a', 'g', 'o'] :: rest => readParts isLocal fuel (r.move (-n) unit) rest
        | rest => readParts isLocal fuel (r.move n unit) rest
      | none =>
        match month? t, rest with
        | some m, .number _ y :: .sign ':' :: more =>
          dated year m (value d) (.number none y :: .sign ':' :: more)
        | some m, .number _ y :: rest => dated (yearOf y) m (value d) rest
        | some m, rest => dated year m (value d) rest
        | none, _ =>
          if t = ['t'] ∧ d.length = 8 then
            dated (value (d.take 4)) (value ((d.drop 4).take 2)) (value (d.drop 6)) rest
          else none
    | .number none d :: rest =>
      if d.length = 8 ∧ r.date.isNone then
        dated (value (d.take 4)) (value ((d.drop 4).take 2)) (value (d.drop 6)) rest
      else if d.length = 4 ∧ r.date.isSome ∧ r.time.isSome then
        let (_, m, day) := r.date.getD (0, 1, 1)
        readParts isLocal fuel { r with date := some (value d, m, day) } rest
      else if d.length = 4 ∧ r.time.isNone then clock r (d.take 2) (d.drop 2) 0 rest
      else if d.length ≤ 2 ∧ r.time.isNone then clock r d ['0'] 0 rest
      else none
    | .word t :: rest =>
      match String.ofList t with
      | "now" | "today" => readParts isLocal fuel { r with isMoved := true } rest
      | "yesterday" => readParts isLocal fuel (r.move (-1) (0, 1, 0)) rest
      | "tomorrow" => readParts isLocal fuel (r.move 1 (0, 1, 0)) rest
      | "t" => readParts isLocal fuel r rest
      | _ =>
        if isLocal t then readParts isLocal fuel { r with shown := some t } rest
        else match month? t, weekday? t, unit? t, ordinal? t, zone? t with
        | some m, _, _, _, _ =>
          match rest with
          | .number none d :: .sign ',' :: .number none y :: rest =>
            dated (yearOf y) m (value d) rest
          | .number none d :: .number none h :: .sign ':' :: rest =>
            dated year m (value d) (.number none h :: .sign ':' :: rest)
          | .number none d :: .number none y :: rest => dated (yearOf y) m (value d) rest
          | .number none d :: rest => dated year m (value d) rest
          | _ => none
        | _, some day, _, _, _ =>
          let rest := match rest with
            | .sign ',' :: rest => rest
            | rest => rest
          readParts isLocal fuel { r with weekday := some (0, day) } rest
        | _, _, some unit, _, _ =>
          match rest with
          | .word ['a', 'g', 'o'] :: rest => readParts isLocal fuel (r.move (-1) unit) rest
          | rest => readParts isLocal fuel (r.move 1 unit) rest
        | _, _, _, some n, _ =>
          match rest with
          | .word u :: rest =>
            match unit? u, weekday? u with
            | some unit, _ =>
              match rest with
              | .word ['a', 'g', 'o'] :: rest => readParts isLocal fuel (r.move (-n) unit) rest
              | rest => readParts isLocal fuel (r.move n unit) rest
            | none, some day => readParts isLocal fuel { r with weekday := some (n, day) } rest
            | none, none => none
          | _ => none
        | _, _, _, _, some offset => zoned { r with zone := some offset } rest
        | _, _, _, _, _ => none
    | .sign ',' :: rest => readParts isLocal fuel r rest
    | _ => none

def monthLength (year : Int) (month : Nat) : Nat :=
  (Calendar.daysTo (if month = 12 then year + 1 else year) (month % 12 + 1) 1 -
    Calendar.daysTo year month 1).toNat

/-- The names of the times that clocks show in the course of a year. -/
def Zone.names (z : Zone) (now : Int) : List Text :=
  [0, 90, 180, 270].map fun days => (z.shown (now + days * Calendar.daySeconds)).1.map Char.toLower

/-- Takes a zone in quotes off the front of a text. -/
def takeZone (z : Zone) (t : Text) : Zone × Text :=
  match t.dropWhile isBlank with
  | 'T' :: 'Z' :: '=' :: '"' :: rest =>
    match Text.cut? '"' rest with
    | some (name, rest) => (.ofText (name.filter (· != '\\')), rest)
    | none => (z, t)
  | _ => (z, t)

/-- The time that a text means, in nanoseconds; relative times start from now. What is said about a
day holds for the clocks of a zone, unless the text names another one. -/
def read? (z : Zone) (now : Int) (t : Text) : Option Int := do
  let (z, t) := takeZone z t
  let here := now.fdiv 1000000000
  let names := Zone.names z here
  let isLocal (t : Text) : Bool := names.contains t && ! ["utc", "gmt", "ut"].any (·.toList == t)
  let ps := parts (t.length + 1) t
  let r ← readParts isLocal (2 * ps.length + 2) {} ps
  match r.absolute with
  | some n =>
    return (n + r.seconds + r.days * Calendar.daySeconds) * 1000000000 + r.nanoseconds
  | none =>
    let today := z.momentOf here
    let (year, month, day) := r.date.getD (today.year, today.month, today.day)
    let year := if year = -1 then today.year else year
    if monthLength year month < day then none
    else
      let isDated := r.date.isSome || (r.weekday.isSome && !r.isMoved) || ps.isEmpty
      let (hour, minute, second) := r.time.getD
        (if isDated ∨ r.zone.isSome ∨ r.shown.isSome then (0, 0, 0)
        else (today.hour, today.minute, today.second))
      let ofDay : Int := (hour * 3600 + minute * 60 + second : Nat)
      let base := Calendar.daysTo year month day * Calendar.daySeconds + ofDay
      let fitting := (z.momentsOf base).filter fun seconds =>
        r.shown.all fun name => (z.shown seconds).1.map Char.toLower == name
      let months := (month : Int) - 1 + r.months
      let year := year + months.fdiv 12
      let days := Calendar.daysTo year (months.emod 12).toNat.succ (day + r.days)
      let days := match r.weekday with
        | some (n, weekday) =>
          if r.date.isSome then days
          else
            let current := (days + 4).emod 7
            let ahead := ((weekday : Int) - current).emod 7
            days + ahead + 7 * (n - (if 0 < n ∧ ahead ≠ 0 then 1 else 0))
        | none => days
      let clock := days * Calendar.daySeconds + ofDay
      let seconds ← match r.zone with
        | some ahead => some (clock - ahead)
        | none => fitting.head?.map fun first => if clock = base then first else z.secondsTo clock
      let nanoseconds := if r.time.isSome ∨ isDated then r.nanoseconds
        else (now.emod 1000000000).toNat
      return (seconds + r.seconds) * 1000000000 + nanoseconds

/-! ### Writing -/

/-- How a directive fills its width up. -/
structure Filling where
  fill : Option Char := none
  upper : Bool := false
  swapped : Bool := false
  width : Option Nat := none

/-- A number with so many places, as a directive wants it filled up. -/
def Filling.number (f : Filling) (fill : Char) (places : Nat) (n : Int) : Text :=
  match f.fill with
  | some '-' => Calendar.filled '0' (f.width.getD 0) n
  | some c => Calendar.filled c (f.width.getD places) n
  | none => Calendar.filled fill (f.width.getD places) n

def Filling.text (f : Filling) (t : Text) : Text :=
  let t := if f.upper then t.map Char.toUpper
    else if f.swapped then (if t.any Char.isLower ∧ !t.all Char.isUpper then t.map Char.toUpper
      else t.map Char.toLower)
    else t
  let fill := if f.fill = some '0' then '0' else ' '
  List.replicate (f.width.getD 0 - t.length) fill ++ t

/-- How far clocks are ahead, with so many colons between the parts; with three of them parts that
are not needed are left out. -/
def Filling.offset (f : Filling) (colons : Nat) (ahead : Int) : Text :=
  let n := ahead.natAbs
  let hours := n / 3600
  let minutes := n / 60 % 60
  let seconds := n % 60
  let two := Calendar.twoDigits
  let tail := match colons with
    | 0 => two minutes
    | 1 => ':' :: two minutes
    | 2 => ':' :: two minutes ++ ':' :: two seconds
    | _ =>
      if seconds ≠ 0 then ':' :: two minutes ++ ':' :: two seconds
      else if minutes ≠ 0 then ':' :: two minutes else []
  let sign := if ahead < 0 then '-' else '+'
  let plain := (if hours = 0 ∧ colons = 0 ∧ f.fill ≠ none then [] else Text.decimal hours) ++ tail
  let width := max (f.width.getD 0) (3 + tail.length)
  match f.fill with
  | some '-' => sign :: plain
  | some ' ' => List.replicate (width - 1 - plain.length) ' ' ++ sign :: plain
  | _ => sign :: (List.replicate (width - 1 - plain.length) '0' ++ plain)

/-- What one directive stands for; none if there is no such directive. -/
def directive? (zone : Zone) (time : Int) (f : Filling) (c : Char) : Option Text :=
  let seconds := time.fdiv 1000000000
  let m := zone.momentOf seconds
  let hour12 : Nat := if m.hour % 12 = 0 then 12 else m.hour % 12
  let sub (t : List Text) : Option Text := some (f.text t.flatten)
  let two := Calendar.twoDigits
  let year := Calendar.filled '0' 4 m.year
  match c with
  | 'Y' => some (f.number '0' 4 m.year)
  | 'C' => some (f.number '0' 2 (m.year.fdiv 100))
  | 'y' => some (f.number '0' 2 (m.year.emod 100))
  | 'm' => some (f.number '0' 2 m.month)
  | 'd' => some (f.number '0' 2 m.day)
  | 'e' => some (f.number ' ' 2 m.day)
  | 'H' => some (f.number '0' 2 m.hour)
  | 'k' => some (f.number ' ' 2 m.hour)
  | 'I' => some (f.number '0' 2 hour12)
  | 'l' => some (f.number ' ' 2 hour12)
  | 'M' => some (f.number '0' 2 m.minute)
  | 'S' => some (f.number '0' 2 m.second)
  | 's' => some (f.number '0' 1 seconds)
  | 'N' =>
    let digits := Calendar.filled '0' 9 (time.emod 1000000000)
    some (match f.fill, f.width with
      | some '-', none => (digits.reverse.dropWhile (· == '0')).reverse
      | _, some n => digits.take n ++ List.replicate (n - 9) '0'
      | _, none => digits)
  | 'j' => some (f.number '0' 3 (Calendar.dayOfYear m))
  | 'q' => some (f.number '0' 1 ((m.month + 2) / 3 : Nat))
  | 'u' => some (f.number '0' 1 ((Calendar.weekday m + 6) % 7 + 1 : Nat))
  | 'w' => some (f.number '0' 1 (Calendar.weekday m))
  | 'U' => some (f.number '0' 2
      ((Calendar.dayOfYear m + 6 - Calendar.weekday m) / 7 : Nat))
  | 'W' => some (f.number '0' 2
      ((Calendar.dayOfYear m + 6 - (Calendar.weekday m + 6) % 7) / 7 : Nat))
  | 'V' => some (f.number '0' 2 (Calendar.isoWeek m).2)
  | 'G' => some (f.number '0' 4 (Calendar.isoWeek m).1)
  | 'g' => some (f.number '0' 2 ((Calendar.isoWeek m).1.emod 100))
  | 'a' => sub [(Calendar.dayName m).take 3]
  | 'A' => sub [Calendar.dayName m]
  | 'b' | 'h' => sub [(Calendar.monthName m).take 3]
  | 'B' => sub [Calendar.monthName m]
  | 'p' => sub [if m.hour < 12 then "AM".toList else "PM".toList]
  | 'P' => sub [if m.hour < 12 then "am".toList else "pm".toList]
  | 'D' | 'x' => sub [two m.month, ['/'], two m.day, ['/'], two (m.year.emod 100).toNat]
  | 'F' => sub [year, ['-'], two m.month, ['-'], two m.day]
  | 'T' | 'X' => sub [two m.hour, [':'], two m.minute, [':'], two m.second]
  | 'R' => sub [two m.hour, [':'], two m.minute]
  | 'r' => sub [two hour12, [':'], two m.minute, [':'], two m.second, [' '],
      if m.hour < 12 then "AM".toList else "PM".toList]
  | 'c' => sub [(Calendar.dayName m).take 3, [' '], (Calendar.monthName m).take 3, [' '],
      Calendar.filled ' ' 2 m.day, [' '], two m.hour, [':'], two m.minute, [':'], two m.second,
      [' '], year]
  | 'n' => some ['\n']
  | 't' => some ['\t']
  | 'Z' => sub [(zone.shown seconds).1]
  | 'z' => some (f.offset 0 (zone.ahead seconds))
  | '%' => some ['%']
  | _ => none

/-- Writes a time by a format. A directive that there is none stays as it is. -/
def write (zone : Zone) (time : Int) : Nat → Text → Text
  | 0, _ => []
  | _ + 1, [] => []
  | fuel + 1, c :: rest =>
    if c ≠ '%' then c :: write zone time fuel rest
    else
      let flags := rest.takeWhile "-_0^#+".toList.contains
      let behind := rest.drop flags.length
      let digits := behind.takeWhile Char.isDigit
      let behind := behind.drop digits.length
      let colons := behind.takeWhile (· == ':')
      let behind := behind.drop colons.length
      let behind := match behind with
        | 'E' :: d :: more | 'O' :: d :: more => d :: more
        | _ => behind
      let fill := (flags.reverse.find? "-_0+".toList.contains).map fun c =>
        if c = '_' then ' ' else if c = '+' then '0' else c
      let f : Filling :=
        { fill, upper := flags.contains '^', swapped := flags.contains '#',
          width := Text.natural? digits }
      match behind with
      | [] => c :: rest
      | d :: more =>
        let n := colons.length
        let shown := if n = 0 then directive? zone time f d
          else if d = 'z' ∧ n ≤ 3 then some (f.offset n (zone.ahead (time.fdiv 1000000000)))
          else none
        match shown with
        | some t => t ++ write zone time fuel more
        | none => c :: rest.take (rest.length - more.length) ++ write zone time fuel more

/-- Writes a time by a format, as clocks of a zone show it. -/
def format (zone : Zone) (time : Int) (t : Text) : Text := write zone time (t.length + 1) t

end LineShell.Utility.DateText
