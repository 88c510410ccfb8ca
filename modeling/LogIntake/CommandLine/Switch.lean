/-!
# Switches of the command line

* `Switch`: what can be given on the command line.
* `Switch.text`, `Switch.usage`: the name of a switch, and how it is written with its value.
* `helpText`: what is shown to somebody who asks for help.
-/

namespace LogIntake.CommandLine

/-- What can be given on the command line. -/
inductive Switch where
  | config
  | file
  | format
  | timestampFormat
  | once
  | noDiscovery
  | autoConnect
  | detail
  | verbose
  | debugLog
  | help
deriving DecidableEq, Repr

/-- The name of the program. -/
def programName : String := "chainsaw"

namespace Switch

/-- All switches, in the order in which they are shown. -/
def all : List Switch :=
  [config, file, format, timestampFormat, once, noDiscovery, autoConnect, detail, verbose, debugLog,
    help]

/-- The name of a switch. -/
def text : Switch → String
  | config => "config"
  | file => "file"
  | format => "format"
  | timestampFormat => "timestamp-format"
  | once => "once"
  | noDiscovery => "no-discovery"
  | autoConnect => "auto-connect"
  | detail => "detail"
  | verbose => "verbose"
  | debugLog => "debug-log"
  | help => "help"

/-- The letter that stands for a switch. -/
def letter? : Switch → Option Char
  | verbose => some 'v'
  | help => some 'h'
  | _ => none

/-- What the value of a switch is called. -/
def valueName? : Switch → Option String
  | config => some "CONFIG"
  | file => some "URI"
  | format => some "TEMPLATE"
  | timestampFormat => some "PATTERN"
  | autoConnect => some "NAME"
  | detail => some "DETAIL"
  | debugLog => some "PATH"
  | once | noDiscovery | verbose | help => none

/-- Whether a switch needs a value. -/
def takesValue (switch : Switch) : Bool := switch.valueName?.isSome

/-- Whether a switch can be given more than once. -/
def isRepeatable : Switch → Bool
  | autoConnect | verbose => true
  | _ => false

/-- Whether the value of a switch is a path, which cannot be empty. -/
def takesPath : Switch → Bool
  | config | debugLog => true
  | _ => false

/-- What a switch is for. -/
def purpose : Switch → String
  | config => "Configuration file (default: ~/.config/chainsaw/config.toml)"
  | file => "Tail this file or URI in addition to the configured receivers"
  | format =>
    "Log format template for --file, e.g. \"TIMESTAMP LEVEL [THREAD] LOGGER - MESSAGE\""
  | timestampFormat => "Timestamp pattern for --file, or RELATIVETIME"
  | once => "Read every receiver once and exit instead of tailing"
  | noDiscovery => "Do not browse for advertised appenders"
  | autoConnect => "Connect discovered services with this instance name automatically"
  | detail => "Columns to print, 0 (message only) to 4 (time, level, logger, thread)"
  | verbose => "More diagnostics on stderr (-v info, -vv debug)"
  | debugLog => "Write debug diagnostics to this file instead of stderr"
  | help => "Print help"

/-- A switch with its value, as it is written. -/
def usage (switch : Switch) : String :=
  "--" ++ switch.text ++
    match switch.valueName? with
    | some name => " <" ++ name ++ ">"
    | none => if switch = verbose then "..." else ""

/-- The switch of a name. -/
def ofText? (name : String) : Option Switch :=
  all.find? (·.text = name)

/-- The switch of a letter. -/
def ofLetter? (letter : Char) : Option Switch :=
  all.find? (·.letter? = some letter)

end Switch

/-! ## Help -/

/-- How the program is used. -/
def usageLine : String := "Usage: " ++ programName ++ " [OPTIONS]"

/-- The width of the widest switch as it is written. -/
def widestUsage : Nat := (Switch.all.map (·.usage.length)).foldl max 0

/-- A switch and what it is for, on one line. -/
def helpLine (switch : Switch) : String :=
  let letter := match switch.letter? with
    | some letter => String.ofList ['-', letter, ',', ' ']
    | none => "    "
  "  " ++ letter ++ switch.usage ++
    String.ofList (List.replicate (widestUsage - switch.usage.length + 2) ' ') ++ switch.purpose

/-- What is shown to somebody who asks for help. -/
def helpText : String :=
  "Tail local, remote and advertised log files\n\n" ++ usageLine ++ "\n\nOptions:\n" ++
    String.join (Switch.all.map fun switch => helpLine switch ++ "\n")

end LogIntake.CommandLine
