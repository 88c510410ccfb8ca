import LogIntake.Calendar.Date
import LogIntake.Text.CharClass

/-!
# Local time zones

* `Zone`: a standard offset from universal time and, if clocks change, the rules for the summer.
* `Zone.offsetAt`: the offset at an instant.
* `Zone.offsetOfLocal?`: the offset at a date-time that local clocks show, if they ever show it.
* `Zone.parse?`: zones in the notation `EST5EDT,M3.2.0,M11.1.0`, where offsets count to the west.
-/

namespace LogIntake.Calendar

/-- A day of every year on which clocks change. -/
inductive YearDay where
  /-- The `n`-th day from 1 on, where 29 February is never counted. -/
  | uncountedLeap (n : Nat)
  /-- The `n`-th day from 0 on, where 29 February is counted. -/
  | counted (n : Nat)
  /-- A day of the week, from Sunday on, in the `week`-th week of a month; the fifth is the last. -/
  | weekly (month week weekday : Nat)
deriving DecidableEq, Repr

/-- The day of a year as a day number. -/
def YearDay.dayNumber (year : Int) : YearDay → Int
  | .uncountedLeap n =>
    (Date.mk year 1 1).dayNumber + n - 1 + (if isLeapYear year && n ≥ 60 then 1 else 0)
  | .counted n => (Date.mk year 1 1).dayNumber + n
  | .weekly month week weekday =>
    let first := (Date.mk year month 1).dayNumber
    let ahead := (weekday - (first + 4)) % 7
    let day := ahead + 7 * (week - 1)
    first + (if day < daysInMonth year month then day else day - 7)

/-- A change of clocks: a day of every year and the seconds after midnight that clocks show then. -/
structure Change where
  day : YearDay
  time : Int
deriving DecidableEq, Repr

/-- What clocks show at the change in a year, in seconds from 1 January 1970. -/
def Change.clock (c : Change) (year : Int) : Int :=
  c.day.dayNumber year * 86400 + c.time

/-- The rules for the summer: its offset in seconds, its first and its last change. -/
structure Summer where
  offset : Int
  starts : Change
  ends : Change
deriving DecidableEq, Repr

/-- A time zone: its standard offset from universal time in seconds, and the rules for the summer. -/
structure Zone where
  standard : Int
  summer : Option Summer
deriving DecidableEq, Repr

/-- Universal time. -/
def Zone.utc : Zone := ⟨0, none⟩

/-- Whether it is summer at an instant. Where summer ends before it starts in the year of the instant,
it lasts over the turn of the year, and winter lies between the two changes. -/
def Zone.isSummerAt (zone : Zone) (summer : Summer) (instant : Int) : Bool :=
  let year := (DateTime.ofSeconds instant 0).date.year
  let start (y : Int) := summer.starts.clock y - zone.standard
  let stop (y : Int) := summer.ends.clock y - summer.offset
  let liesBetween (first second : Int → Int) : Bool :=
    [year - 1, year, year + 1].any fun y => first y ≤ instant && instant < second y
  if start year ≤ stop year then liesBetween start stop else !liesBetween stop start

/-- The offset at an instant, in seconds from 1 January 1970, 0 o'clock universal time. -/
def Zone.offsetAt (zone : Zone) (instant : Int) : Int :=
  match zone.summer with
  | none => zone.standard
  | some summer => if zone.isSummerAt summer instant then summer.offset else zone.standard

/-- The offset among `outer` and `inner` at what clocks show as `clock`, in a year with the offset
`inner` between two changes at `first` and `second`. Clocks skip what lies between the times before
and after a change forward; the moment itself of a forward change that comes first in its year still
counts as the time before it. Of a time shown twice the later one is meant. -/
def offsetBetween (outer inner first second clock : Int) : Option Int :=
  if outer ≤ inner then
    if clock ≤ first then some outer
    else if clock < first + (inner - outer) then none
    else if clock < second - (inner - outer) then some inner
    else some outer
  else
    if clock < first - (outer - inner) then some outer
    else if clock ≤ first || clock < second then some inner
    else if clock < second + (outer - inner) then none
    else some outer

/-- Local clocks differ from universal time by less than a day. -/
def isOffset (offset : Int) : Bool :=
  offset.natAbs < 86400

/-- The offset at a date-time that local clocks show, or `none` if they skip it. -/
def Zone.offsetOfLocal? (zone : Zone) (t : DateTime) : Option Int :=
  Option.filter isOffset <|
    match zone.summer with
    | none => some zone.standard
    | some summer =>
      let starts := summer.starts.clock t.date.year
      let ends := summer.ends.clock t.date.year
      if summer.starts.day.dayNumber t.date.year < summer.ends.day.dayNumber t.date.year then
        offsetBetween zone.standard summer.offset starts ends t.seconds
      else
        offsetBetween summer.offset zone.standard ends starts t.seconds

/-- What the surroundings say about time: the local zone and the current year. -/
structure Almanac where
  zone : Zone
  year : Int
deriving Repr

/-! ## Notation -/

namespace Zone

/-- Reads a number of decimal digits. -/
def number? (s : List Char) : Option (Nat × List Char) :=
  let digits := s.takeWhile Text.isAsciiDigit
  if digits.isEmpty then none
  else some (digits.foldl (fun n c => n * 10 + Text.digitValue c) 0, s.dropWhile Text.isAsciiDigit)

/-- Reads one of the signs `+` and `-`, or no sign. -/
def sign (s : List Char) : Int × List Char :=
  match s with
  | '-' :: rest => (-1, rest)
  | '+' :: rest => (1, rest)
  | _ => (1, s)

/-- A character of the name of a zone. -/
def isNamePart (c : Char) : Bool :=
  Text.isAsciiLetter c || Text.isAsciiDigit c || c == '+' || c == '-'

/-- Reads the name of a zone, of three to seven characters: letters, or between angle brackets also
digits and signs. -/
def name? (s : List Char) : Option (List Char) :=
  let (name, rest) := match s with
    | '<' :: s => (s.takeWhile (· != '>'), (s.dropWhile (· != '>')).tail?)
    | s => (s.takeWhile Text.isAsciiLetter, some (s.dropWhile Text.isAsciiLetter))
  if 3 ≤ name.length && name.length ≤ 7 && name.all isNamePart then rest else none

/-- Reads a number up to a bound. -/
def numberUpTo? (bound : Nat) (s : List Char) : Option (Nat × List Char) :=
  (number? s).filter (·.1 ≤ bound)

/-- Reads hours, with minutes and seconds if they follow after colons, in seconds. -/
def hours? (s : List Char) : Option (Int × List Char) := do
  let (hours, s) ← numberUpTo? 24 s
  let ':' :: s := s | return (hours * 3600, s)
  let (minutes, s) ← numberUpTo? 59 s
  let ':' :: s := s | return (hours * 3600 + minutes * 60, s)
  let (seconds, s) ← numberUpTo? 59 s
  return (hours * 3600 + minutes * 60 + seconds, s)

/-- Reads an offset, which counts to the west, as one that counts to the east. -/
def offset? (s : List Char) : Option (Int × List Char) := do
  let (factor, s) := sign s
  let (seconds, s) ← hours? s
  return (-factor * seconds, s)

/-- Reads a day of every year. -/
def yearDay? : List Char → Option (YearDay × List Char)
  | 'J' :: s =>
    ((numberUpTo? 365 s).filter (1 ≤ ·.1)).map fun (n, s) => (.uncountedLeap n, s)
  | 'M' :: s => do
    let (month, s) ← (numberUpTo? 12 s).filter (1 ≤ ·.1)
    let '.' :: s := s | none
    let (week, s) ← (numberUpTo? 5 s).filter (1 ≤ ·.1)
    let '.' :: s := s | none
    let (weekday, s) ← numberUpTo? 6 s
    return (.weekly month week weekday, s)
  | s => (numberUpTo? 365 s).map fun (n, s) => (.counted n, s)

/-- Reads a change of clocks, at 2 o'clock unless a time follows. -/
def change? (s : List Char) : Option (Change × List Char) := do
  let (day, s) ← yearDay? s
  match s with
  | '/' :: s =>
    let (time, s) ← hours? s
    return (⟨day, time⟩, s)
  | _ => return (⟨day, 7200⟩, s)

/-- A blank or the end of a line around a notation. -/
def isMargin (c : Char) : Bool :=
  c == ' ' || c == '\t' || c == '\n' || c == '\x0c' || c == '\r'

/-- Reads a time zone. Summer is one hour ahead unless an offset follows its name. -/
def parse? (text : String) : Option Zone := do
  let s := ((text.toList.dropWhile isMargin).reverse.dropWhile isMargin).reverse
  let (standard, s) ← offset? (← name? s)
  if s.isEmpty then return ⟨standard, none⟩
  let s ← name? s
  let (summer, s) ← match s with
    | ',' :: _ => some (standard + 3600, s)
    | _ => offset? s
  let ',' :: s := s | none
  let (starts, s) ← change? s
  let ',' :: s := s | none
  let (ends, s) ← change? s
  if s.isEmpty then return ⟨standard, some ⟨summer, starts, ends⟩⟩ else none

end Zone

end LogIntake.Calendar
