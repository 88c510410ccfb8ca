import LogIntake.Event.Basic
import LogIntake.Record.Assembler
import LogIntake.Timestamp.Relative

/-!
# From lines to events

* `Decoder`: assembles lines into records and turns records into events.
* `Decoder.new`: a decoder from a template and a timestamp pattern.
* `Decoder.decode`, `Decoder.flush`: takes a line, or the end of the lines.
* `Surroundings`: the local time and the times of receipt, which are known from outside.
-/

namespace LogIntake

/-- Why a decoder cannot be made. -/
inductive FormatError where
  | template (e : TemplateError)
  | timestamp (e : PatternError)
deriving DecidableEq, Repr

/-- The wording of a refusal. -/
def FormatError.message : FormatError → String
  | .template e => e.message
  | .timestamp e => e.message

/-- What is known from outside while lines are decoded: the local time, and when each record, counted
from 0 on, is received. -/
structure Surroundings where
  almanac : Calendar.Almanac
  receipt : Nat → Int

/-- Turns the lines of one source into events. -/
structure Decoder where
  source : String
  assembler : Assembler
  timestamp : TimestampParser
  /-- Resolves relative times that stand beside no timestamp. -/
  relative : RelativeClock := {}
  /-- The number of records so far. -/
  count : Nat := 0
deriving Repr

namespace Decoder

/-- Reads a timestamp pattern and then a template whose timestamps follow it. -/
def new (source template pattern : String) (keepUnmatched : Bool) : Except FormatError Decoder := do
  let timestamp ← (TimestampParser.compile pattern).mapError .timestamp
  let template ← (Template.compile template (some timestamp.shape)).mapError .template
  return { source, timestamp, assembler := { template, keepUnmatched } }

/-- The logger of a record that does not tell one. -/
def unknownLogger : String := "Unknown"

/-- The level of a record that does not tell one. -/
def defaultLevel : String := "DEBUG"

/-- The time of a record received at a given time: from its timestamp, or else from its relative
time. A text that cannot be read gives none. -/
def resolveTime (almanac : Calendar.Almanac) (receivedAt : Int) (record : Record) (d : Decoder) :
    Option Int × Decoder :=
  match record.fields.get? .timestamp, record.fields.get? .relativeTime with
  | some text, _ =>
    let (result, timestamp) := d.timestamp.parseAt almanac text receivedAt
    (result.toOption, { d with timestamp })
  | none, some text =>
    let (result, relative) := d.relative.resolve text receivedAt
    (result.toOption, { d with relative })
  | none, none => (none, d)

/-- The properties that a record captures. -/
def propertiesOf (fields : Captures) : Properties :=
  .ofList (fields.filterMap fun
    | (.prop key, value) => some (key, value)
    | _ => none)

/-- The event of a record received at a given time, with the time of the event. -/
def eventOf (source : String) (receivedAt : Int) (timestamp : Option Int) (record : Record) :
    Event where
  timestamp
  receivedAt
  source
  logger :=
    ((record.fields.get? .logger).or (record.fields.get? .className)).getD unknownLogger
  level := ((record.fields.get? .level).filter (· ≠ "")).getD defaultLevel
  thread := record.fields.get? .thread
  location :=
    { file := record.fields.get? .file
      className := record.fields.get? .className
      method := record.fields.get? .method
      line := record.fields.get? .line }
  message := record.message
  ndc := record.fields.get? .ndc
  properties := propertiesOf record.fields
  throwable := record.throwable
  raw := record.raw

/-- The event of a record, if there is a record. -/
def emit (surroundings : Surroundings) (d : Decoder) : Option Record → List Event × Decoder
  | none => ([], d)
  | some record =>
    let receivedAt := surroundings.receipt d.count
    let (timestamp, d) := d.resolveTime surroundings.almanac receivedAt record
    ([eventOf d.source receivedAt timestamp record], { d with count := d.count + 1 })

/-- Takes a line. -/
def decode (surroundings : Surroundings) (d : Decoder) (line : String) : List Event × Decoder :=
  let (record, assembler) := d.assembler.feed line
  { d with assembler }.emit surroundings record

/-- Takes lines one after the other. -/
def decodeAll (surroundings : Surroundings) : Decoder → List String → List Event × Decoder
  | d, [] => ([], d)
  | d, line :: rest =>
    let (events, d) := d.decode surroundings line
    let (later, d) := decodeAll surroundings d rest
    (events ++ later, d)

/-- Takes the end of the lines. -/
def flush (surroundings : Surroundings) (d : Decoder) : List Event × Decoder :=
  let (record, assembler) := d.assembler.flush
  { d with assembler }.emit surroundings record

end Decoder

end LogIntake
