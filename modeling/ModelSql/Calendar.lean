/-
**Dates and times of day.**

Dates of the proleptic Gregorian calendar, times of day to the nanosecond, and their pairs.  A leap
second is a time whose nanoseconds run past one second, so that it comes after every other time of
its second and before the next one.

Main definitions:

* `Date`, `TimeOfDay`, `DateTime` — the types, with their bounds;
* `Date.next`, `Date.previous`, `DateTime.toUtc` — moving by a day, and to universal time;
* `Date.compare`, `TimeOfDay.compare`, `DateTime.compare` — the order of time;
* `Date.toText`, `TimeOfDay.toMillis`, `DateTime.toMillis`, `TimeOfDay.toIso`, `DateTime.toIso` —
  texts.
-/

import ModelSql.Text.Basic

set_option autoImplicit false

namespace ModelSql

/-! ### Dates -/

/-- Whether the year has a 29th of February. -/
def isLeapYear (year : Int) : Bool :=
  year % 4 == 0 && (year % 100 != 0 || year % 400 == 0)

/-- The number of days of a month. -/
def daysInMonth (year : Int) (month : Nat) : Nat :=
  if month = 2 then (if isLeapYear year then 29 else 28)
  else if month = 4 ∨ month = 6 ∨ month = 9 ∨ month = 11 then 30
  else 31

/-- The first and the last year that dates reach. -/
def minYear : Int := -262143

@[inherit_doc minYear]
def maxYear : Int := 262142

/-- Whether year, month and day name a day. -/
def isDate (year : Int) (month day : Nat) : Bool :=
  minYear ≤ year && year ≤ maxYear && 1 ≤ month && month ≤ 12 && 1 ≤ day &&
    day ≤ daysInMonth year month

/-- A day of the calendar. -/
structure Date where
  year : Int
  month : Nat
  day : Nat
  valid : isDate year month day = true
  deriving DecidableEq

namespace Date

/-- The day of the given parts, if there is one. -/
def ofParts? (year : Int) (month day : Nat) : Option Date :=
  if h : isDate year month day = true then some ⟨year, month, day, h⟩ else none

/-- The order of days. -/
def compare (a b : Date) : Ordering :=
  (Ord.compare a.year b.year).then ((Ord.compare a.month b.month).then (Ord.compare a.day b.day))

/-- The following day; the last day of all has none. -/
def next (d : Date) : Option Date :=
  if d.day < daysInMonth d.year d.month then ofParts? d.year d.month (d.day + 1)
  else if d.month < 12 then ofParts? d.year (d.month + 1) 1
  else ofParts? (d.year + 1) 1 1

/-- The day before; the first day of all has none. -/
def previous (d : Date) : Option Date :=
  if 1 < d.day then ofParts? d.year d.month (d.day - 1)
  else if 1 < d.month then ofParts? d.year (d.month - 1) (daysInMonth d.year (d.month - 1))
  else ofParts? (d.year - 1) 12 31

/-- The text of a year: four digits, and a sign in front of a year that is negative or longer. -/
def yearText (year : Int) : String :=
  if 0 ≤ year ∧ year ≤ 9999 then Text.padNat 4 year.toNat
  else (if year < 0 then "-" else "+") ++ Text.padNat 4 year.natAbs

/-- The text `year-month-day`. -/
def toText (d : Date) : String :=
  yearText d.year ++ "-" ++ Text.padNat 2 d.month ++ "-" ++ Text.padNat 2 d.day

end Date

/-! ### Times of day -/

/-- Whether the parts name a time of day; a leap second has more than a thousand million
nanoseconds. -/
def isTimeOfDay (hour minute second nanosecond : Nat) : Bool :=
  hour < 24 && minute < 60 && second < 60 && nanosecond < 2000000000

/-- A time of day. -/
structure TimeOfDay where
  hour : Nat
  minute : Nat
  second : Nat
  nanosecond : Nat
  valid : isTimeOfDay hour minute second nanosecond = true
  deriving DecidableEq

namespace TimeOfDay

/-- The time of the given parts, if there is one. -/
def ofParts? (hour minute second nanosecond : Nat) : Option TimeOfDay :=
  if h : isTimeOfDay hour minute second nanosecond = true then
    some ⟨hour, minute, second, nanosecond, h⟩
  else none

/-- The start of a day. -/
def midnight : TimeOfDay := ⟨0, 0, 0, 0, by decide⟩

/-- Whole seconds since the start of the day. -/
def secondOfDay (t : TimeOfDay) : Nat := 3600 * t.hour + 60 * t.minute + t.second

/-- The order of times. -/
def compare (a b : TimeOfDay) : Ordering :=
  (Ord.compare a.secondOfDay b.secondOfDay).then (Ord.compare a.nanosecond b.nanosecond)

/-- The second as it is written: a leap second is one more. -/
def shownSecond (t : TimeOfDay) : Nat := t.second + t.nanosecond / 1000000000

/-- The text `hour:minute:second`. -/
def toSeconds (t : TimeOfDay) : String :=
  Text.padNat 2 t.hour ++ ":" ++ Text.padNat 2 t.minute ++ ":" ++ Text.padNat 2 t.shownSecond

/-- The text of a time to the millisecond. -/
def toMillis (t : TimeOfDay) : String :=
  t.toSeconds ++ "." ++ Text.padNat 3 (t.nanosecond / 1000000 % 1000)

/-- The text of a time with as many groups of three places as it needs. -/
def toIso (t : TimeOfDay) : String :=
  let fraction := t.nanosecond % 1000000000
  t.toSeconds ++
    if fraction = 0 then ""
    else if fraction % 1000000 = 0 then "." ++ Text.padNat 3 (fraction / 1000000)
    else if fraction % 1000 = 0 then "." ++ Text.padNat 6 (fraction / 1000)
    else "." ++ Text.padNat 9 fraction

end TimeOfDay

/-! ### Date-times -/

/-- A day and a time on it. -/
structure DateTime where
  date : Date
  time : TimeOfDay
  deriving DecidableEq

namespace DateTime

/-- The order of date-times. -/
def compare (a b : DateTime) : Ordering :=
  (a.date.compare b.date).then (a.time.compare b.time)

/-- The text of a date-time to the millisecond, with a blank between its parts. -/
def toMillis (t : DateTime) : String := t.date.toText ++ " " ++ t.time.toMillis

/-- The text of a date-time with a `T` between its parts. -/
def toIso (t : DateTime) : String := t.date.toText ++ "T" ++ t.time.toIso

/-- Universal time of a local time `offset` seconds east of it, for offsets of less than a day; the
nanoseconds stay as they are. -/
def toUtc (t : DateTime) (offset : Int) : Option DateTime :=
  let second : Int := t.time.secondOfDay - offset
  let date : Option Date :=
    if second < 0 then t.date.previous
    else if 86400 ≤ second then t.date.next
    else some t.date
  let n := (second % 86400).toNat
  date.bind fun d =>
    (TimeOfDay.ofParts? (n / 3600) (n / 60 % 60) (n % 60) t.time.nanosecond).map fun u => ⟨d, u⟩

end DateTime

end ModelSql
