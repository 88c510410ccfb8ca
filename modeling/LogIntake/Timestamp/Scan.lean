import LogIntake.Calendar.Date
import LogIntake.Text.Trim
import LogIntake.Text.Utf8
import LogIntake.Timestamp.Directive

/-!
# Reading a timestamp

* `ScanError`: why a text is no timestamp.
* `Reading`: the parts of a date-time read so far.
* `Step.run`, `scan`: reads a text step by step.
* `Reading.date`, `Reading.time`: the date and the time of day that the parts determine.
-/

namespace LogIntake.Timestamp

open Calendar Text

/-- Why a text is no timestamp. -/
inductive ScanError where
  | tooShort
  | invalid
  | outOfRange
  | impossible
  | notEnough
  | tooLong
  | noSuchLocalTime
deriving DecidableEq, Repr

/-- The wording of a reason. -/
def ScanError.message : ScanError → String
  | .tooShort => "premature end of input"
  | .invalid => "input contains invalid characters"
  | .outOfRange => "input is out of range"
  | .impossible => "no possible date and time matching input"
  | .notEnough => "input is not enough for unique date and time"
  | .tooLong => "trailing input"
  | .noSuchLocalTime => "no such local time"

/-- The parts of a date-time read so far. The half of the day is 0 for the morning and 1 for the
afternoon. -/
structure Reading where
  year : Option Int := none
  yearOfCentury : Option Nat := none
  month : Option Nat := none
  day : Option Nat := none
  half : Option Nat := none
  hourOfHalf : Option Nat := none
  minute : Option Nat := none
  second : Option Nat := none
  nanosecond : Option Nat := none
  weekday : Option Weekday := none
  offset : Option Int := none
deriving DecidableEq, Repr

/-- A value for a part that may have been read before: it must be the same again. -/
def settle {α : Type} [DecidableEq α] (old : Option α) (new : α) : Except ScanError (Option α) :=
  match old with
  | none => .ok (some new)
  | some value => if value = new then .ok old else .error .impossible

/-- Fails if a number does not lie between two bounds. -/
def checkRange (least most n : Int) : Except ScanError Unit :=
  if least ≤ n && n ≤ most then .ok () else .error .outOfRange

/-! ## Parts of the text -/

/-- The value of a sequence of digits. -/
def digitsValue (digits : List Char) : Nat :=
  digits.foldl (fun n c => n * 10 + digitValue c) 0

/-- Reads a number of one to `most` digits; `none` sets no limit. -/
def scanNumber (most : Option Nat) (s : List Char) : Except ScanError (Nat × List Char) :=
  let digits := ((most.map s.take).getD s).takeWhile isAsciiDigit
  if s.isEmpty then .error .tooShort
  else if digits.isEmpty then .error .invalid
  else .ok (digitsValue digits, s.drop digits.length)

/-- Reads a year of up to four digits, or of any number of digits after a sign. -/
def scanYear (s : List Char) : Except ScanError (Int × List Char) :=
  match s with
  | '-' :: rest => (scanNumber none rest).map fun (n, rest) => (-n, rest)
  | '+' :: rest => (scanNumber none rest).map fun (n, rest) => (n, rest)
  | _ => (scanNumber (some 4) s).map fun (n, rest) => (n, rest)

/-- Reads a fraction of exactly so many digits, in nanoseconds. -/
def scanFraction (digits : Nat) (s : List Char) : Except ScanError (Nat × List Char) :=
  let read := (s.take digits).takeWhile isAsciiDigit
  if Utf8.size s < digits then .error .tooShort
  else if read.length < digits then .error .invalid
  else .ok (digitsValue read * Nat.pow 10 (9 - digits), s.drop digits)

/-- Reads the first three letters of one of the names in any case, and its other letters too if
`long` is set and they follow: the number of the name, and the rest. -/
def scanName (names : List String) (long : Bool) (s : List Char) :
    Except ScanError (Nat × List Char) :=
  let lower := fun (l : List Char) => l.map asciiLower
  if Utf8.size s < 3 then .error .tooShort
  else
    match names.findIdx? fun name => lower (name.toList.take 3) == lower (s.take 3) with
    | none => .error .invalid
    | some index =>
      let suffix := (names.getD index "").toList.drop 3
      let rest := s.drop 3
      if long && lower (rest.take suffix.length) == lower suffix then
        .ok (index, rest.drop suffix.length)
      else .ok (index, rest)

/-- Reads `am` or `pm` in any case. -/
def scanHalf (s : List Char) : Except ScanError (Nat × List Char) :=
  if Utf8.size s < 2 then .error .tooShort
  else
    match (s.take 2).map asciiLower with
    | ['a', 'm'] => .ok (0, s.drop 2)
    | ['p', 'm'] => .ok (1, s.drop 2)
    | _ => .error .invalid

/-- Reads two characters, which are both digits. -/
def scanTwoDigits (s : List Char) : Except ScanError (Nat × List Char) :=
  if Utf8.size s < 2 then .error .tooShort
  else
    match s with
    | a :: b :: rest =>
      if isAsciiDigit a && isAsciiDigit b then .ok (digitsValue [a, b], rest) else .error .invalid
    | _ => .error .invalid

/-- Reads the sign of an offset, which may be the typographic minus sign. -/
def scanSign (s : List Char) : Except ScanError (Int × List Char) :=
  match s with
  | [] => .error .tooShort
  | c :: rest =>
    if c = '+' then .ok (1, rest)
    else if c = '-' || c = '\u2212' then .ok (-1, rest)
    else .error .invalid

/-- Reads an offset from universal time: sign, hours and minutes, with any colons and blanks between
them. The result counts seconds. -/
def scanOffset (s : List Char) : Except ScanError (Int × List Char) := do
  let (sign, s) ← scanSign (trimStart s)
  let (hours, s) ← scanTwoDigits s
  let (minutes, s) ← scanTwoDigits (s.dropWhile fun c => c == ':' || isBlank c)
  if minutes ≥ 60 then throw .outOfRange
  return (sign * (hours * 3600 + minutes * 60), s)

/-! ## Steps -/

/-- Reads a number of up to two digits that lies between two bounds; white space may precede it. -/
def scanPart (least most : Nat) (s : List Char) : Except ScanError (Nat × List Char) := do
  let (n, s) ← scanNumber (some 2) (trimStart s)
  checkRange least most n
  return (n, s)

/-- Reads a part of a date-time. -/
def Directive.scan (d : Directive) (r : Reading) (s : List Char) :
    Except ScanError (Reading × List Char) := do
  match d with
  | .year =>
    let (n, s) ← scanYear (trimStart s)
    checkRange (-2147483648) 2147483647 n
    return ({ r with year := ← settle r.year n }, s)
  | .yearOfCentury =>
    let (n, s) ← scanPart 0 99 s
    return ({ r with yearOfCentury := ← settle r.yearOfCentury n }, s)
  | .month =>
    let (n, s) ← scanPart 1 12 s
    return ({ r with month := ← settle r.month n }, s)
  | .monthName long =>
    let (index, s) ← scanName monthNames long s
    return ({ r with month := ← settle r.month (index + 1) }, s)
  | .day =>
    let (n, s) ← scanPart 1 31 s
    return ({ r with day := ← settle r.day n }, s)
  | .hour =>
    let (n, s) ← scanPart 0 23 s
    let half ← settle r.half (n / 12)
    return ({ r with half, hourOfHalf := ← settle r.hourOfHalf (n % 12) }, s)
  | .hourOfHalf =>
    let (n, s) ← scanPart 1 12 s
    return ({ r with hourOfHalf := ← settle r.hourOfHalf (n % 12) }, s)
  | .half =>
    let (n, s) ← scanHalf s
    return ({ r with half := ← settle r.half n }, s)
  | .minute =>
    let (n, s) ← scanPart 0 59 s
    return ({ r with minute := ← settle r.minute n }, s)
  | .second =>
    let (n, s) ← scanPart 0 60 s
    return ({ r with second := ← settle r.second n }, s)
  | .fraction digits =>
    let (n, s) ← scanFraction digits s
    return ({ r with nanosecond := ← settle r.nanosecond n }, s)
  | .weekdayName long =>
    let (index, s) ← scanName weekdayNames long s
    return ({ r with weekday := ← settle r.weekday (Fin.ofNat 7 index) }, s)
  | .offset =>
    let (n, s) ← scanOffset s
    return ({ r with offset := ← settle r.offset n }, s)

/-- Takes one step. -/
def Step.run (step : Step) (r : Reading) (s : List Char) : Except ScanError (Reading × List Char) :=
  match step with
  | .blanks => .ok (r, trimStart s)
  | .expect text =>
    if Utf8.size s < Utf8.size text then .error .tooShort
    else if text.isPrefixOf s then .ok (r, s.drop text.length)
    else .error .invalid
  | .read directive => directive.scan r s

/-- Takes all steps; nothing may remain after the last one. -/
def scan : List Step → Reading → List Char → Except ScanError Reading
  | [], r, s => if s.isEmpty then .ok r else .error .tooLong
  | step :: steps, r, s =>
    match step.run r s with
    | .error e => .error e
    | .ok (r, s) => scan steps r s

/-! ## What the parts determine -/

/-- The year: two digits alone mean one of the years 1970 to 2069, and beside a full year they must
agree with it. -/
def Reading.fullYear (r : Reading) : Except ScanError (Option Int) :=
  match r.year, r.yearOfCentury with
  | year, none => .ok year
  | some year, some short =>
    if 0 ≤ year && year % 100 == short then .ok (some year) else .error .impossible
  | none, some short => .ok (some (if short < 70 then 2000 + short else 1900 + short))

/-- The date: year, month and day are all needed, and a weekday must agree with them. -/
def Reading.date (r : Reading) : Except ScanError Date := do
  match ← r.fullYear, r.month, r.day with
  | some year, some month, some day =>
    let date : Date := ⟨year, month, day⟩
    if !date.isValid then throw .outOfRange
    else if r.weekday.any (· != date.weekday) then throw .impossible
    else return date
  | _, _, _ => throw .notEnough

/-- The time of day: hour and minute are needed, and a fraction needs seconds. The 60th second is the
59th and a full second more. -/
def Reading.time (date : Date) (r : Reading) : Except ScanError DateTime :=
  match r.half, r.hourOfHalf, r.minute, r.second, r.nanosecond with
  | some half, some hour, some minute, none, none =>
    .ok ⟨date, half * 12 + hour, minute, 0, 0⟩
  | some half, some hour, some minute, some second, fraction =>
    let nanosecond := fraction.getD 0
    .ok <|
      if second = 60 then ⟨date, half * 12 + hour, minute, 59, 1000000000 + nanosecond⟩
      else ⟨date, half * 12 + hour, minute, second, nanosecond⟩
  | _, _, _, _, _ => .error .notEnough

/-- The date and the time of day; a fault of the date is reported first. -/
def Reading.dateTime (r : Reading) : Except ScanError DateTime := do
  r.time (← r.date)

end LogIntake.Timestamp
