import LogIntake.Text.Trim

/-!
# Severity levels

* `Level`: the severities in ascending order, `Level.rank` their place.
* `Level.parse?`: the level that a text names.
-/

namespace LogIntake

/-- How severe an event is. -/
inductive Level where
  | trace
  | debug
  | info
  | warn
  | error
  | fatal
deriving DecidableEq, Repr

namespace Level

/-- The place of a level among all, the least severe first. -/
def rank : Level → Nat
  | .trace => 0
  | .debug => 1
  | .info => 2
  | .warn => 3
  | .error => 4
  | .fatal => 5

/-- The name of a level. -/
def name : Level → String
  | .trace => "TRACE"
  | .debug => "DEBUG"
  | .info => "INFO"
  | .warn => "WARN"
  | .error => "ERROR"
  | .fatal => "FATAL"

/-- The level of a name in capital letters; some levels have several names. -/
def ofName? : String → Option Level
  | "TRACE" | "FINEST" | "FINER" => some .trace
  | "DEBUG" | "FINE" | "CONFIG" => some .debug
  | "INFO" => some .info
  | "WARN" | "WARNING" => some .warn
  | "ERROR" | "SEVERE" => some .error
  | "FATAL" => some .fatal
  | _ => none

/-- The level that a text names, in any case of English letters and with white space around it. -/
def parse? (text : String) : Option Level :=
  ofName? (String.ofList ((Text.trim text.toList).map Text.asciiUpper))

end Level

/-! ## Small facts -/

/-- Every level is read back from its name. -/
theorem Level.ofName?_name (level : Level) : ofName? level.name = some level := by
  cases level <;> rfl

end LogIntake
