import LogIntake.Calendar.Zone

/-!
# Date-times as text

* `Moment`: what a local clock shows at an instant.
* `Item`: a part of a written date-time; `timeColumn` and `isoTime` are the usual sequences.
* `Item.parse`: items from the notation `%Y-%m-%d`.
* `Item.render`: a moment as text.
-/

namespace LogIntake.Calendar

/-- What a local clock shows at an instant: its date-time and its offset from universal time. -/
structure Moment where
  clock : DateTime
  offset : Int
deriving DecidableEq, Repr

/-- The first millisecond that can be told. -/
def firstMillis : Int := -8334601228800000

/-- The last millisecond that can be told. -/
def lastMillis : Int := 8210266876799999

/-- What the clocks of a zone show at an instant given in milliseconds. -/
def Zone.momentAt? (zone : Zone) (millis : Int) : Option Moment :=
  let seconds := millis / 1000
  let offset := zone.offsetAt seconds
  if firstMillis ≤ millis && millis ≤ lastMillis && isOffset offset then
    some ⟨.ofSeconds (seconds + offset) ((millis % 1000).toNat * 1000000), offset⟩
  else none

/-- The instant of a moment, in seconds from 1 January 1970, 0 o'clock universal time. -/
def Moment.instant (m : Moment) : Int :=
  m.clock.seconds - m.offset

/-! ## Items -/

/-- How a number is filled up to its width. -/
inductive Fill where
  | zeros
  | blanks
  | nothing
deriving DecidableEq, Repr

/-- The numbers of a written date-time. -/
inductive Quantity where
  | year | yearOfCentury | quarter | month | day | dayOfYear
  | hour | hourOfHalf | minute | second | nanosecond | instant
  | weekdayFromSunday | weekdayFromMonday
  | weekFromSunday | weekFromMonday | isoWeek | isoYear | isoYearOfCentury
deriving DecidableEq, Repr

/-- How much of an offset is written. -/
inductive OffsetForm where
  /-- Hours and minutes, without a colon between them. -/
  | plain
  | hours
  | minutes
  | seconds
  /-- Seconds only if there are some. -/
  | needed
deriving DecidableEq, Repr

/-- A part of a written date-time. -/
inductive Item where
  | literal (c : Char)
  | number (quantity : Quantity) (fill : Fill)
  | century (fill : Fill)
  | monthName (long : Bool)
  | weekdayName (long : Bool)
  | half (capital : Bool)
  /-- So many digits of the fraction of the second. -/
  | fraction (dot : Bool) (digits : Nat)
  /-- A dot and as few groups of three digits as tell the fraction; nothing for none. -/
  | shortFraction
  | offset (form : OffsetForm)
deriving DecidableEq, Repr

/-- The number of days before a date in its year, counted from the week's first day on, in whole
weeks. -/
def weekOfYear (dayOfYear sinceFirst : Nat) : Nat :=
  (dayOfYear + 7 - sinceFirst) / 7

/-- The year and the week of a date, where weeks begin on Monday and belong to the year that holds
their Thursday. -/
def weekByThursday (d : Date) : Int × Nat :=
  let thursday := Date.ofDayNumber (d.dayNumber - d.weekday.val + 3)
  (thursday.year, thursday.dayOfYear / 7 + 1)

/-- The value of a quantity, and the width to which it is filled. -/
def Quantity.value (m : Moment) : Quantity → Int × Nat
  | .year => (m.clock.date.year, 4)
  | .yearOfCentury => (m.clock.date.year % 100, 2)
  | .quarter => ((m.clock.date.month + 2) / 3, 1)
  | .month => (m.clock.date.month, 2)
  | .day => (m.clock.date.day, 2)
  | .dayOfYear => (m.clock.date.dayOfYear + 1, 3)
  | .hour => (m.clock.hour, 2)
  | .hourOfHalf => ((m.clock.hour + 11) % 12 + 1, 2)
  | .minute => (m.clock.minute, 2)
  | .second => (m.clock.second + m.clock.nanosecond / 1000000000, 2)
  | .nanosecond => (m.clock.nanosecond % 1000000000, 9)
  | .instant => (m.instant, 9)
  | .weekdayFromSunday => ((m.clock.date.weekday.val + 1) % 7, 1)
  | .weekdayFromMonday => (m.clock.date.weekday.val + 1, 1)
  | .weekFromSunday =>
    (weekOfYear m.clock.date.dayOfYear ((m.clock.date.weekday.val + 1) % 7), 2)
  | .weekFromMonday => (weekOfYear m.clock.date.dayOfYear m.clock.date.weekday.val, 2)
  | .isoWeek => ((weekByThursday m.clock.date).2, 2)
  | .isoYear => ((weekByThursday m.clock.date).1, 4)
  | .isoYearOfCentury => ((weekByThursday m.clock.date).1 % 100, 2)

/-- A text filled on the left up to a width. -/
def fillLeft (c : Char) (width : Nat) (s : List Char) : List Char :=
  List.replicate (width - s.length) c ++ s

/-- The decimal digits of a number, with zeros in front up to a width. -/
def paddedDigits (width n : Nat) : List Char :=
  fillLeft '0' width (Nat.toDigits 10 n)

/-- A number filled up to a width. A sign is written before a negative number, and before any number
where `signed` says so; it takes a place of its own there. -/
def writeNumber (fill : Fill) (signed : Bool) (width : Nat) (n : Int) : List Char :=
  let digits := Nat.toDigits 10 n.natAbs
  let mark := if n < 0 then ['-'] else if signed then ['+'] else []
  let width := if signed then width + 1 else width
  match fill with
  | .zeros => mark ++ fillLeft '0' (width - mark.length) digits
  | .blanks => fillLeft ' ' width (mark ++ digits)
  | .nothing => mark ++ digits

/-- A century by its tens and its ones. It is told up to a multiple of 256, and for more than nine tens
stand the characters behind the digits. -/
def writeCentury (fill : Fill) (century : Int) : List Char :=
  let n := (century % 256).toNat
  let tens := match fill with
    | .zeros => ['0']
    | .blanks => [' ']
    | .nothing => []
  let digit (k : Nat) := Char.ofNat ('0'.toNat + k)
  (if n < 10 then tens else [digit (n / 10)]) ++ [digit (n % 10)]

/-- An offset in a given form. Seconds that are not written are rounded to minutes, and minutes that
are not written are left out. -/
def writeOffset (form : OffsetForm) (offset : Int) : List Char :=
  let size := offset.natAbs
  let rounded := (size + 30) / 60
  let part (n : Nat) : List Char := ':' :: paddedDigits 2 (n % 60)
  let written := match form with
    | .plain => paddedDigits 2 (rounded / 60) ++ paddedDigits 2 (rounded % 60)
    | .hours => paddedDigits 2 (size / 3600)
    | .minutes => paddedDigits 2 (rounded / 60) ++ part rounded
    | .seconds => paddedDigits 2 (size / 3600) ++ part (size / 60) ++ part size
    | .needed =>
      paddedDigits 2 (size / 3600) ++ part (size / 60) ++ if size % 60 = 0 then [] else part size
  (if offset < 0 then '-' else '+') :: written

/-- The first digits of the fraction of a second. -/
def writeFraction (digits nanosecond : Nat) : List Char :=
  (paddedDigits 9 (nanosecond % 1000000000)).take digits

/-- An item of a moment as text. -/
def Item.render (m : Moment) : Item → List Char
  | .literal c => [c]
  | .number quantity fill =>
    let (n, width) := quantity.value m
    let signed := (quantity = .year || quantity = .isoYear) && !(0 ≤ n && n ≤ 9999)
    writeNumber fill signed width n
  | .century fill => writeCentury fill (m.clock.date.year / 100)
  | .monthName long =>
    let name := (monthNames.getD (m.clock.date.month - 1) "").toList
    if long then name else name.take 3
  | .weekdayName long =>
    let name := (weekdayNames.getD m.clock.date.weekday.val "").toList
    if long then name else name.take 3
  | .half capital =>
    let letter := if m.clock.hour < 12 then 'a' else 'p'
    if capital then [Text.asciiUpper letter, 'M'] else [letter, 'm']
  | .fraction dot digits =>
    (if dot then ['.'] else []) ++ writeFraction digits m.clock.nanosecond
  | .shortFraction =>
    let n := m.clock.nanosecond % 1000000000
    if n = 0 then []
    else '.' :: writeFraction (if n % 1000000 = 0 then 3 else if n % 1000 = 0 then 6 else 9) n
  | .offset form => writeOffset form m.offset

/-- A moment written item by item. -/
def Moment.render (m : Moment) (items : List Item) : String :=
  String.ofList (items.flatMap (Item.render m))

/-! ## Notation -/

/-- The date `year-month-day`. -/
def isoDate : List Item :=
  [.number .year .zeros, .literal '-', .number .month .zeros, .literal '-', .number .day .zeros]

/-- The time of day `hour:minute:second`. -/
def clockTime : List Item :=
  [.number .hour .zeros, .literal ':', .number .minute .zeros, .literal ':',
    .number .second .zeros]

/-- The date `month/day/year` with two digits each. -/
def slashDate : List Item :=
  [.number .month .zeros, .literal '/', .number .day .zeros, .literal '/',
    .number .yearOfCentury .zeros]

/-- The column for the time of an event: `2024-03-05 10:20:30.123`. -/
def timeColumn : List Item :=
  isoDate ++ [.literal ' '] ++ clockTime ++ [.fraction true 3]

/-- The full form of a time: `2024-03-05T10:20:30.123+0000`. -/
def isoTime : List Item :=
  isoDate ++ [.literal 'T'] ++ clockTime ++ [.fraction true 3, .offset .plain]

/-- The items that a letter after a percent sign stands for. -/
def Item.ofLetter : Char → List Item
  | 'Y' => [.number .year .zeros]
  | 'C' => [.century .zeros]
  | 'y' => [.number .yearOfCentury .zeros]
  | 'q' => [.number .quarter .zeros]
  | 'm' => [.number .month .zeros]
  | 'b' | 'h' => [.monthName false]
  | 'B' => [.monthName true]
  | 'd' => [.number .day .zeros]
  | 'e' => [.number .day .blanks]
  | 'a' => [.weekdayName false]
  | 'A' => [.weekdayName true]
  | 'w' => [.number .weekdayFromSunday .zeros]
  | 'u' => [.number .weekdayFromMonday .zeros]
  | 'U' => [.number .weekFromSunday .zeros]
  | 'W' => [.number .weekFromMonday .zeros]
  | 'G' => [.number .isoYear .zeros]
  | 'g' => [.number .isoYearOfCentury .zeros]
  | 'V' => [.number .isoWeek .zeros]
  | 'j' => [.number .dayOfYear .zeros]
  | 'H' => [.number .hour .zeros]
  | 'k' => [.number .hour .blanks]
  | 'I' => [.number .hourOfHalf .zeros]
  | 'l' => [.number .hourOfHalf .blanks]
  | 'M' => [.number .minute .zeros]
  | 'S' => [.number .second .zeros]
  | 'f' => [.number .nanosecond .zeros]
  | 'p' => [.half true]
  | 'P' => [.half false]
  | 's' => [.number .instant .nothing]
  | 'z' => [.offset .plain]
  | 'Z' => [.offset .needed]
  | 'F' => isoDate
  | 'T' | 'X' => clockTime
  | 'R' => [.number .hour .zeros, .literal ':', .number .minute .zeros]
  | 'D' | 'x' => slashDate
  | 'r' =>
    [.number .hourOfHalf .zeros, .literal ':', .number .minute .zeros, .literal ':',
      .number .second .zeros, .literal ' ', .half true]
  | 'c' =>
    [.weekdayName false, .literal ' ', .monthName false, .literal ' ', .number .day .blanks,
      .literal ' '] ++ clockTime ++ [.literal ' ', .number .year .zeros]
  | 'v' =>
    [.number .day .blanks, .literal '-', .monthName false, .literal '-', .number .year .zeros]
  | '+' => isoDate ++ [.literal 'T'] ++ clockTime ++ [.shortFraction, .offset .minutes]
  | 't' => [.literal '\t']
  | 'n' => [.literal '\n']
  | c => [.literal c]

/-- Fills a number otherwise; other items stay as they are. -/
def Item.refill (fill : Fill) : Item → Item
  | .number quantity _ => .number quantity fill
  | .century _ => .century fill
  | item => item

/-- The items of a format: a percent sign takes the letter after it, with a mark for the fill, a
count of digits or colons between them. -/
def Item.parse : List Char → List Item
  | [] => []
  | '%' :: '-' :: c :: rest => (ofLetter c).map (refill .nothing) ++ parse rest
  | '%' :: '_' :: c :: rest => (ofLetter c).map (refill .blanks) ++ parse rest
  | '%' :: '0' :: c :: rest => (ofLetter c).map (refill .zeros) ++ parse rest
  | '%' :: '.' :: '3' :: 'f' :: rest => .fraction true 3 :: parse rest
  | '%' :: '.' :: '6' :: 'f' :: rest => .fraction true 6 :: parse rest
  | '%' :: '.' :: '9' :: 'f' :: rest => .fraction true 9 :: parse rest
  | '%' :: '.' :: 'f' :: rest => .shortFraction :: parse rest
  | '%' :: '3' :: 'f' :: rest => .fraction false 3 :: parse rest
  | '%' :: '6' :: 'f' :: rest => .fraction false 6 :: parse rest
  | '%' :: '9' :: 'f' :: rest => .fraction false 9 :: parse rest
  | '%' :: ':' :: ':' :: ':' :: 'z' :: rest => .offset .hours :: parse rest
  | '%' :: ':' :: ':' :: 'z' :: rest => .offset .seconds :: parse rest
  | '%' :: ':' :: 'z' :: rest => .offset .minutes :: parse rest
  | '%' :: c :: rest => ofLetter c ++ parse rest
  | c :: rest => .literal c :: parse rest

/-! ## Small facts -/

example : (Zone.utc.momentAt? 1709633230123).map (·.render timeColumn) =
    some "2024-03-05 10:07:10.123" := by decide +kernel

end LogIntake.Calendar
