import LogIntake.Timestamp.Format

/-!
# Relative times, and timestamps of either kind

* `RelativeClock`: offsets in milliseconds from the receipt of the first record.
* `int64?`: the texts of 64-bit integers.
* `TimestampParser`: reads timestamps by a pattern, or as offsets where the pattern is
  `RELATIVETIME`.
-/

namespace LogIntake

/-- The least 64-bit integer. -/
def leastInt64 : Int := -9223372036854775808

/-- The greatest 64-bit integer. -/
def greatestInt64 : Int := 9223372036854775807

/-- The 64-bit integer that a text of digits tells, which a sign may precede. -/
def int64? (s : List Char) : Option Int :=
  let (factor, digits) : Int × List Char := match s with
    | '-' :: rest => (-1, rest)
    | '+' :: rest => (1, rest)
    | _ => (1, s)
  if digits.isEmpty || !digits.all Text.isAsciiDigit then none
  else
    let n := factor * Timestamp.digitsValue digits
    if leastInt64 ≤ n && n ≤ greatestInt64 then some n else none

/-- Offsets count from the anchor, the receipt time of the first record that has one. -/
structure RelativeClock where
  anchor : Option Int := none
deriving DecidableEq, Repr

/-- The instant of an offset received at a time: the first offset fixes the anchor for all later
ones. Instants stay within 64 bits. -/
def RelativeClock.resolve (clock : RelativeClock) (text : String) (receivedAt : Int) :
    Except TimestampError Int × RelativeClock :=
  match int64? (Text.trim text.toList) with
  | none => (.error (.notRelative text), clock)
  | some offset =>
    let anchor := clock.anchor.getD receivedAt
    (.ok (max leastInt64 (min greatestInt64 (anchor + offset))), ⟨some anchor⟩)

/-- The pattern that asks for relative times. -/
def relativePattern : String := "RELATIVETIME"

/-- Reads timestamps by a pattern, or as offsets from the first receipt. -/
inductive TimestampParser where
  | absolute (format : Timestamp.Format)
  | relative (clock : RelativeClock)
deriving DecidableEq, Repr

namespace TimestampParser

/-- Reads a pattern. -/
def compile (pattern : String) : Except PatternError TimestampParser :=
  if Text.trim pattern.toList = relativePattern.toList then .ok (.relative {})
  else (Timestamp.Format.compile pattern).map .absolute

/-- What texts a timestamp can be inside a line. -/
def shape : TimestampParser → Shape
  | .absolute format => format.shape
  | .relative _ => [.run .digit true .longest]

/-- The instant of a text received at a time, and the parser for later texts. -/
def parseAt (almanac : Calendar.Almanac) (text : String) (receivedAt : Int) :
    TimestampParser → Except TimestampError Int × TimestampParser
  | .absolute format => (format.parse almanac text, .absolute format)
  | .relative clock =>
    let (result, clock) := clock.resolve text receivedAt
    (result, .relative clock)

end TimestampParser

end LogIntake
