import LogIntake.Calendar.Display
import LogIntake.Timestamp.Scan

/-!
# Timestamp formats

* `Format`: a timestamp pattern whose letters are all understood.
* `Format.compile`: a format from its pattern, or the reason why it is refused.
* `Format.parse`: the instant of a text, in milliseconds from 1 January 1970, 0 o'clock universal
  time.
* `TimestampError`: a text that is no timestamp.
-/

namespace LogIntake

open Calendar

/-- Why a text has no instant. -/
inductive TimestampError where
  | unreadable (text : String) (reason : Timestamp.ScanError)
  | notRelative (text : String)
deriving DecidableEq, Repr

/-- The wording of a fault. -/
def TimestampError.message : TimestampError → String
  | .unreadable text reason =>
    "cannot parse '" ++ text ++ "' as a timestamp: " ++ reason.message
  | .notRelative text => "'" ++ text ++ "' is not a relative time in milliseconds"

namespace Timestamp

/-- A timestamp pattern with the steps that read a text. -/
structure Format where
  pattern : String
  tokens : List Token
  steps : List Step
deriving DecidableEq, Repr

/-- Whether a pattern has a run of one of the letters. -/
def hasLetter (letters : List Char) (tokens : List Token) : Bool :=
  tokens.any fun
    | .letters letter _ => letters.contains letter
    | .literal _ => false

/-- Reads a pattern. -/
def Format.compile (pattern : String) : Except PatternError Format := do
  if Text.isAllBlank pattern.toList then throw .empty
  let tokens ← tokenize pattern.toList
  let steps ← tokens.mapM (Token.steps (hasLetter ['a'] tokens))
  return { pattern, tokens, steps := steps.flatten }

namespace Format

/-- What texts a timestamp can be inside a line. -/
def shape (format : Format) : Shape :=
  format.tokens.flatMap Token.shape

/-- The pattern says the year. -/
def hasYear (format : Format) : Bool :=
  hasLetter ['y'] format.tokens

/-- The pattern says a part of the date. -/
def hasDate (format : Format) : Bool :=
  hasLetter ['y', 'M', 'd'] format.tokens

/-- The pattern says a part of the time of day. -/
def hasTime (format : Format) : Bool :=
  hasLetter ['H', 'k', 'h', 'K', 'm', 's', 'S'] format.tokens

/-- The pattern says the offset from universal time. -/
def hasOffset (format : Format) : Bool :=
  hasLetter ['Z', 'X'] format.tokens

/-- What is known before a text is read: without a date it is one of 1 January 1970, and without a
year one of the current year. -/
def known (format : Format) (currentYear : Int) : Reading :=
  if !format.hasDate then { year := some 1970, month := some 1, day := some 1 }
  else if !format.hasYear then { year := some currentYear }
  else {}

/-- The instant of a date-time whose clock is ahead of universal time by an offset, if it can be
told. -/
def instant? (t : DateTime) (offset : Int) : Option Int :=
  let millis := (t.seconds - offset) * 1000
  if firstMillis ≤ millis && millis ≤ lastMillis then some (millis + t.nanosecond / 1000000)
  else none

/-- The instant of a date-time, given what was read of its offset. An offset in the text decides
alone; otherwise the clock is a local one. -/
def resolve (format : Format) (zone : Zone) (r : Reading) : Except ScanError Int := do
  if format.hasOffset then
    let some offset := r.offset | throw .notEnough
    let t ← r.dateTime
    if offset.natAbs ≥ 86400 then throw .outOfRange
    match instant? t offset with
    | some millis => return millis
    | none => throw .impossible
  else
    let t ← if format.hasTime then r.dateTime else r.date.map fun date => ⟨date, 0, 0, 0, 0⟩
    match (zone.offsetOfLocal? t).bind (instant? t) with
    | some millis => return millis
    | none => throw .noSuchLocalTime

/-- The instant that a text tells, white space around it set aside. -/
def parse (format : Format) (almanac : Almanac) (text : String) : Except TimestampError Int :=
  let trimmed := Text.trim text.toList
  match scan format.steps (format.known almanac.year) trimmed with
  | .error reason => .error (.unreadable (String.ofList trimmed) reason)
  | .ok r =>
    match format.resolve almanac.zone r with
    | .error reason => .error (.unreadable (String.ofList trimmed) reason)
    | .ok millis => .ok millis

end Format

end Timestamp

end LogIntake
