import RecordSchema.Text.Digits

/-!
# Dates and times

Days of the proleptic Gregorian calendar, times of day with microseconds, and their combination,
which may carry an offset from universal time in seconds. Each has a plain text and a printed form
that names its kind and its numbers.
-/

set_option autoImplicit false

namespace RecordSchema.Calendar

open RecordSchema.Text

/-- A day of the calendar. -/
structure Date where
  year : Nat
  month : Nat
  day : Nat
deriving DecidableEq

/-- A time of day. -/
structure Clock where
  hour : Nat
  minute : Nat
  second : Nat
  micro : Nat
deriving DecidableEq

/-- A day and a time of day, at an offset from universal time if one is given. -/
structure Moment where
  date : Date
  clock : Clock
  offset : Option Int
deriving DecidableEq

def isLeap (year : Nat) : Bool :=
  year % 4 == 0 && (year % 100 != 0 || year % 400 == 0)

/-- The number of days in a month. -/
def daysIn (year month : Nat) : Nat :=
  if month == 2 then (if isLeap year then 29 else 28)
  else if month == 4 || month == 6 || month == 9 || month == 11 then 30
  else 31

namespace Date

/-- Does the calendar have this day? Years run from 1 to 9999. -/
def isValid (d : Date) : Bool :=
  1 ≤ d.year && d.year ≤ 9999 && 1 ≤ d.month && d.month ≤ 12 && 1 ≤ d.day &&
    d.day ≤ daysIn d.year d.month

/-- The number of days since the first day of year 1, counted so that comparison is exact. -/
def ordinal (d : Date) : Nat :=
  let y := d.year - 1
  let months := (List.range (d.month - 1)).foldl (fun n m => n + daysIn d.year (m + 1)) 0
  365 * y + y / 4 - y / 100 + y / 400 + months + d.day

/-- The day so many days after the first of January 1970, counted from the first of March of year
zero in spans of 400 years, all of one length. Years before 1 are none of the calendar. -/
def ofEpochDays (days : Int) : Option Date :=
  let shifted := days + 719468
  let span := shifted / 146097
  let inSpan := (shifted % 146097).toNat
  let yearOfSpan := (inSpan - inSpan / 1460 + inSpan / 36524 - inSpan / 146096) / 365
  let dayOfYear := inSpan - (365 * yearOfSpan + yearOfSpan / 4 - yearOfSpan / 100)
  let shiftedMonth := (5 * dayOfYear + 2) / 153
  let month := if shiftedMonth < 10 then shiftedMonth + 3 else shiftedMonth - 9
  let year := span * 400 + yearOfSpan + (if month ≤ 2 then 1 else 0)
  let d : Date := ⟨year.toNat, month, dayOfYear - (153 * shiftedMonth + 2) / 5 + 1⟩
  if 1 ≤ year && d.isValid then some d else none

/-- Year, month and day between hyphens. -/
def text (d : Date) : String :=
  padded 4 d.year ++ "-" ++ padded 2 d.month ++ "-" ++ padded 2 d.day

def numbers (d : Date) : List Nat := [d.year, d.month, d.day]

end Date

namespace Clock

def isValid (c : Clock) : Bool :=
  c.hour < 24 && c.minute < 60 && c.second < 60 && c.micro < 1000000

def micros (c : Clock) : Nat :=
  ((c.hour * 60 + c.minute) * 60 + c.second) * 1000000 + c.micro

/-- Hours, minutes and seconds between colons, and the microseconds unless they are zero. -/
def text (c : Clock) : String :=
  padded 2 c.hour ++ ":" ++ padded 2 c.minute ++ ":" ++ padded 2 c.second ++
    (if c.micro == 0 then "" else "." ++ padded 6 c.micro)

/-- Hour and minute, then the second and the microsecond as far as they are not zero. -/
def numbers (c : Clock) : List Nat :=
  if c.micro != 0 then [c.hour, c.minute, c.second, c.micro]
  else if c.second != 0 then [c.hour, c.minute, c.second]
  else [c.hour, c.minute]

end Clock

/-- Reads year, month and day of four, two and two digits between hyphens. -/
def Date.ofText? (s : String) : Option Date := do
  let value (cs : List Char) : Option Nat := (cs.mapM (digitIn? 10)).map (ofDigits 10)
  match s.toList with
  | [a, b, c, d, '-', e, f, '-', g, h] =>
    let year ← value [a, b, c, d]
    let month ← value [e, f]
    let day ← value [g, h]
    some ⟨year, month, day⟩
  | _ => none

/-- An offset as a sign, hours and minutes, and seconds unless they are zero. -/
def offsetText (seconds : Int) : String :=
  let n := seconds.natAbs
  (if seconds < 0 then "-" else "+") ++ padded 2 (n / 3600) ++ ":" ++ padded 2 (n / 60 % 60) ++
    (if n % 60 == 0 then "" else ":" ++ padded 2 (n % 60))

def Moment.text (m : Moment) : String :=
  m.date.text ++ " " ++ m.clock.text ++ ((m.offset.map offsetText).getD "")

/-- Microseconds since a fixed origin, at universal time. -/
def Moment.instant (m : Moment) : Int :=
  ((m.date.ordinal : Int) * 86400 - m.offset.getD 0) * 1000000 + m.clock.micros

/-- Equal moments are the same instant; one with an offset never equals one without. -/
def Moment.equal (a b : Moment) : Bool :=
  a.offset.isSome == b.offset.isSome && a.instant == b.instant

/-- An offset, printed as a whole number of days, which may be negative, and of seconds. -/
def offsetShown (seconds : Int) : String :=
  if seconds == 0 then "datetime.timezone.utc"
  else
    let days := seconds.fdiv 86400
    let rest := seconds.fmod 86400
    let parts :=
      (if days == 0 then [] else ["days=" ++ intText days]) ++
        (if rest == 0 then [] else ["seconds=" ++ intText rest])
    "datetime.timezone(datetime.timedelta(" ++ ", ".intercalate parts ++ "))"

def call (head : String) (arguments : List String) : String :=
  head ++ "(" ++ ", ".intercalate arguments ++ ")"

def Date.shown (d : Date) : String :=
  call "datetime.date" (d.numbers.map Nat.repr)

def Clock.shown (c : Clock) : String :=
  call "datetime.time" (c.numbers.map Nat.repr)

def Moment.shown (m : Moment) : String :=
  call "datetime.datetime"
    (m.date.numbers.map Nat.repr ++ m.clock.numbers.map Nat.repr ++
      (m.offset.map fun o => "tzinfo=" ++ offsetShown o).toList)

end RecordSchema.Calendar
