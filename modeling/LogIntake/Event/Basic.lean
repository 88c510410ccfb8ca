import LogIntake.Calendar.Display
import LogIntake.Event.Level
import LogIntake.Event.Properties
import LogIntake.Text.Lines

/-!
# Events

* `Event`: a log record whose fields have been told apart.
* `Event.preview`, `Event.full`: an event on one line and on all its lines.
* `Event.searchable`: the text in which a filter looks.
-/

namespace LogIntake

open Calendar

/-- The place in a program at which an event was reported. -/
structure Location where
  file : Option String := none
  className : Option String := none
  method : Option String := none
  line : Option String := none
deriving DecidableEq, Repr

/-- A location of which nothing is known. -/
def Location.isEmpty (l : Location) : Bool :=
  l.file.isNone && l.className.isNone && l.method.isNone && l.line.isNone

/-- A log event. Times are in milliseconds from 1 January 1970, 0 o'clock universal time. -/
structure Event where
  /-- The time of the event, unless its timestamp could not be read. -/
  timestamp : Option Int := none
  receivedAt : Int := 0
  /-- The name of the receiver. -/
  source : String
  logger : String := ""
  level : String := ""
  thread : Option String := none
  location : Location := {}
  message : String
  ndc : Option String := none
  properties : Properties := []
  throwable : List String := []
  /-- The lines of the record as they were received. -/
  raw : String := message
deriving DecidableEq, Repr

namespace Event

/-- How severe the event is, if its level is a known one. -/
def severity (e : Event) : Option Level :=
  Level.parse? e.level

/-- What local clocks show at the time of the event. -/
def localTime? (zone : Zone) (e : Event) : Option Moment :=
  e.timestamp.bind zone.momentAt?

/-! ## Text -/

/-- The greatest detail of a preview. -/
def maxDetail : Nat := 4

/-- The first line of a text that is not blank, trimmed; the text itself if there is none. -/
def firstLine (text : List Char) : List Char :=
  (((Text.split '\n' text).map Text.trim).find? (!·.isEmpty)).getD text

/-- The columns before the message: time, level, logger and thread. -/
def columns (zone : Zone) (timeFormat : List Item) (e : Event) : List String :=
  [((e.localTime? zone).map (·.render timeFormat)).getD "", e.level, e.logger, e.thread.getD ""]

/-- The event on one line: the first columns, as many as the detail says, in brackets, without those
that are empty, and the first line of the message. -/
def preview (zone : Zone) (timeFormat : List Item) (detail : Nat) (e : Event) : String :=
  let shown := ((e.columns zone timeFormat).take detail).filter (· ≠ "")
  String.intercalate " "
    (shown.map (fun column => "[" ++ column ++ "]") ++ [String.ofList (firstLine e.message.toList)])

/-- The lines of the message after its first one, each after a line feed. -/
def laterLines (e : Event) : String :=
  String.join (((Text.lines e.message.toList).drop 1).map fun line => "\n" ++ String.ofList line)

/-- The event on all its lines. -/
def full (zone : Zone) (timeFormat : List Item) (e : Event) : String :=
  e.preview zone timeFormat maxDetail ++ e.laterLines

/-- The text in which a filter looks: all lines, the properties and the name of the receiver. -/
def searchable (zone : Zone) (timeFormat : List Item) (e : Event) : String :=
  e.full zone timeFormat ++
    String.join (e.properties.map fun (key, value) => " " ++ key ++ "=" ++ value) ++ " " ++ e.source

end Event

end LogIntake
