/-!
# Civil dates

* `Date`: a year, a month and a day of the Gregorian calendar, extended to all years.
* `Date.dayNumber`, `Date.ofDayNumber`: dates counted in days from 1 January 1970, and back.
* `Weekday`, `Date.weekday`: the days of the week.
* `DateTime`: a date with a time of day, to the nanosecond.
-/

namespace LogIntake.Calendar

/-- A date of the Gregorian calendar. -/
structure Date where
  year : Int
  month : Nat
  day : Nat
deriving DecidableEq, Repr

/-- Every fourth year is a leap year, but of the full centuries only every fourth. -/
def isLeapYear (year : Int) : Bool :=
  year % 4 == 0 && (year % 100 != 0 || year % 400 == 0)

/-- The number of days of a month. -/
def daysInMonth (year : Int) (month : Nat) : Nat :=
  match month with
  | 2 => if isLeapYear year then 29 else 28
  | 4 | 6 | 9 | 11 => 30
  | _ => 31

/-- The number of days of a year that lie before a month. -/
def daysBeforeMonth (year : Int) (month : Nat) : Nat :=
  (List.range (month - 1)).foldl (fun days i => days + daysInMonth year (i + 1)) 0

/-- The number of days from 1 January of the year 1 to 1 January of a year. -/
def daysBeforeYear (year : Int) : Int :=
  let y := year - 1
  365 * y + y / 4 - y / 100 + y / 400

/-- The number of days from 1 January of the year 1 to 1 January 1970. -/
def epochDay : Int := 719162

/-- The first year that can be told. -/
def firstYear : Int := -262143

/-- The last year that can be told. -/
def lastYear : Int := 262142

/-- The date exists in the calendar and its year can be told. -/
def Date.isValid (d : Date) : Bool :=
  firstYear ≤ d.year && d.year ≤ lastYear && 1 ≤ d.month && d.month ≤ 12 && 1 ≤ d.day &&
    d.day ≤ daysInMonth d.year d.month

/-- The number of days of the year before a date. -/
def Date.dayOfYear (d : Date) : Nat :=
  daysBeforeMonth d.year d.month + (d.day - 1)

/-- The number of days from 1 January 1970 to a date. -/
def Date.dayNumber (d : Date) : Int :=
  daysBeforeYear d.year + d.dayOfYear - epochDay

/-- The year in which a day lies, counted from 1 January of the year 1. The quotient by the mean
length of a year is off by one year at most. -/
def yearOfDay (n : Int) : Int :=
  let y := 400 * n / 146097 + 1
  if n < daysBeforeYear y then y - 1
  else if daysBeforeYear (y + 1) ≤ n then y + 1
  else y

/-- The month and the day, where `n` days remain from the first of `month` on. -/
def monthOfDay (year : Int) : Nat → Nat → Nat → Nat × Nat
  | 0, month, n => (month, n + 1)
  | more + 1, month, n =>
    if n < daysInMonth year month then (month, n + 1)
    else monthOfDay year more (month + 1) (n - daysInMonth year month)

/-- The date that lies a number of days after 1 January 1970. -/
def Date.ofDayNumber (n : Int) : Date :=
  let day := n + epochDay
  let year := yearOfDay day
  let (month, dayOfMonth) := monthOfDay year 11 1 (day - daysBeforeYear year).toNat
  ⟨year, month, dayOfMonth⟩

/-- The days of the week, from Monday on. -/
abbrev Weekday := Fin 7

/-- The day of the week; 1 January 1970 was a Thursday. -/
def Date.weekday (d : Date) : Weekday :=
  ⟨((d.dayNumber + 3) % 7).toNat, by omega⟩

/-! ## Date and time -/

/-- A date with a time of day. A leap second is the 59th second with `nanosecond` beyond a full
second. -/
structure DateTime where
  date : Date
  hour : Nat
  minute : Nat
  second : Nat
  nanosecond : Nat
deriving DecidableEq, Repr

/-- Seconds from 1 January 1970, 0 o'clock, as the clock of the date-time shows them. -/
def DateTime.seconds (t : DateTime) : Int :=
  t.date.dayNumber * 86400 + t.hour * 3600 + t.minute * 60 + t.second

/-- The date-time that a clock shows some seconds after 1 January 1970, 0 o'clock. -/
def DateTime.ofSeconds (seconds : Int) (nanosecond : Nat) : DateTime :=
  let ofDay := (seconds % 86400).toNat
  ⟨.ofDayNumber (seconds / 86400), ofDay / 3600, ofDay / 60 % 60, ofDay % 60, nanosecond⟩

/-! ## Names -/

/-- The months. -/
def monthNames : List String :=
  ["January", "February", "March", "April", "May", "June", "July", "August", "September", "October",
    "November", "December"]

/-- The days of the week, from Monday on. -/
def weekdayNames : List String :=
  ["Monday", "Tuesday", "Wednesday", "Thursday", "Friday", "Saturday", "Sunday"]

/-! ## Small facts -/

example : (Date.mk 2024 2 29).dayNumber = 19782 ∧ Date.ofDayNumber 19782 = ⟨2024, 2, 29⟩ := by
  decide

example : (Date.mk 1970 1 1).dayNumber = 0 ∧ (Date.mk 1970 1 1).weekday = 3 := by decide

example : Date.ofDayNumber (-1) = ⟨1969, 12, 31⟩ := by decide

end LogIntake.Calendar
