import LogIntake.CommandLine.Session

/-!
# A run of the program

* `Machine`: what a run finds.
* `Run`: what a run leaves behind.
* `run`: a run on a machine whose files do not change.
-/

namespace LogIntake.CommandLine

/-- What a run finds. -/
structure Machine where
  disk : Node
  /-- The directory in which the program is started. -/
  here : String
  /-- The folder for the settings of all programs. -/
  home : String
  surroundings : Surroundings
  /-- Why services cannot be looked for. -/
  discovery : Except String Unit

/-- How a run ends. -/
inductive Ending where
  | finished
  | misused (e : Misuse)
  | failed (failure : Failure)
  /-- It goes on until somebody stops it. -/
  | endless
deriving DecidableEq, Repr

/-- The code with which a run ends. -/
def Ending.code? : Ending → Option Nat
  | .finished => some 0
  | .failed _ => some 1
  | .misused _ => some 2
  | .endless => none

/-- What a run leaves behind. -/
structure Run where
  disk : Node
  /-- The lines that were printed. -/
  lines : List String := []
  ending : Ending

/-- Makes sure that the file for diagnostics can be written to. -/
def openLog (machine : Machine) (arguments : Arguments) : Except Failure Node :=
  match arguments.debugLog with
  | none => .ok machine.disk
  | some path => (machine.disk.openToAppend machine.here path).mapError (.ofLog path)

/-- The settings that the command line names, or those of the user. -/
def loadSettings (machine : Machine) (arguments : Arguments) (disk : Node) :
    Except SettingsError Settings × Node :=
  match arguments.config with
  | some path => (Settings.loadFrom (disk.bytes? "/") (Node.pathFrom machine.here path), disk)
  | none => Settings.loadUser disk machine.home

/-- The run of a session that has begun. -/
def runSession (machine : Machine) (disk : Node) (s : Session) : Run :=
  let s := (s.pass (disk.find machine.here)).round
  { disk
    lines := s.lines
    ending := if s.isOver then .finished else .endless }

/-- A run with what the command line says. The file for diagnostics is opened first, then the settings
are loaded and the receivers connected. -/
def runWith (machine : Machine) (arguments : Arguments) : Run :=
  match openLog machine arguments with
  | .error failure => { disk := machine.disk, ending := .failed failure }
  | .ok disk =>
    let (settings, disk) := loadSettings machine arguments disk
    match settings with
    | .error e => { disk, ending := .failed (.ofSettings e) }
    | .ok settings =>
      match Session.start arguments settings machine.surroundings machine.discovery with
      | .error failure => { disk, ending := .failed failure }
      | .ok s => runSession machine disk s

/-- A run on a machine whose files do not change. -/
def run (machine : Machine) (arguments : List String) : Run :=
  match Arguments.parse arguments with
  | .error .help =>
    { disk := machine.disk
      lines := (Text.lines helpText.toList).map String.ofList
      ending := .finished }
  | .error (.misuse e) => { disk := machine.disk, ending := .misused e }
  | .ok arguments => runWith machine arguments

end LogIntake.CommandLine
