import LogIntake.CommandLine.Run
import Std.Time.DateTime.Timestamp

/-!
# The program

The outer layer: it reads the files of the machine, the clock and the variables of the environment, lets
a session go on, and prints its events.
-/

namespace LogIntake.CommandLine

/-- The fault that the operating system reports. -/
def faultOf : IO.Error → Fault
  | .noFileOrDirectory .. => .notFound
  | .inappropriateType _ code details =>
    if code = 20 then .notADirectory
    else if code = 21 then .isADirectory
    else ⟨.other, details⟩
  | .permissionDenied _ code details | .alreadyExists _ code details =>
    ⟨.other, details ++ " (os error " ++ toString code ++ ")"⟩
  | e => ⟨.other, toString e⟩

/-- What stands under a path now. A directory is shown without its entries. -/
def look (path : String) : IO (Except Fault Node) := do
  try
    return .ok (.file (← IO.FS.readBinFile path).toList)
  catch e =>
    let fault := faultOf e
    return if fault.kind = .isADirectory then .ok (.directory []) else .error fault

/-- The bytes of the file under a path, if there is one. -/
def contentOf (path : String) : IO (Option (List UInt8)) := do
  match ← look path with
  | .ok (.file bytes) => return some bytes
  | _ => return none

/-- The local time, and the present as the time of receipt. -/
def presentSurroundings : IO Surroundings := do
  let now := (← Std.Time.Timestamp.now).toMillisecondsSinceUnixEpoch.val
  let zone := ((← IO.getEnv "TZ").bind Calendar.Zone.parse?).getD .utc
  let year := ((zone.momentAt? now).map (·.clock.date.year)).getD 1970
  return ⟨⟨zone, year⟩, fun _ => now⟩

/-- The folder for the settings of all programs. -/
def settingsFolder : IO String := do
  let chosen := (← IO.getEnv "XDG_CONFIG_HOME").filter (·.startsWith "/")
  return chosen.getD (((← IO.getEnv "HOME").getD "") ++ "/.config")

/-- Loads settings from the document under a path from the root. -/
def readDocument
    (load : (String → Option (List UInt8)) → String → Except SettingsError Settings)
    (path : String) : IO (Except SettingsError Settings) := do
  let contents ← (Settings.places path).mapM fun place => return (place, ← contentOf place)
  return load (fun place => (contents.lookup place).join) path

/-- The settings that the command line names, or those of the user. -/
def readSettings (arguments : Arguments) : IO (Except SettingsError Settings) := do
  match arguments.config with
  | some path =>
    readDocument Settings.loadFrom (Node.pathFrom (toString (← IO.currentDir)) path)
  | none =>
    let home ← settingsFolder
    let path := Settings.userPath home
    match ← look path with
    | .ok _ => readDocument Settings.loadOptional path
    | .error _ =>
      try
        IO.FS.createDirAll (home ++ "/" ++ Settings.folderName)
        IO.FS.writeFile path defaultDocument
        readDocument Settings.loadOptional path
      catch e => return .error (.io (faultOf e))

/-- Opens the file for diagnostics. -/
def startLog (arguments : Arguments) : IO (Except Failure Unit) := do
  match arguments.debugLog with
  | none => return .ok ()
  | some path =>
    try
      let handle ← IO.FS.Handle.mk path .append
      handle.putStrLn (programName ++ " debug log started")
      return .ok ()
    catch e => return .error (.ofLog path (faultOf e))

/-- Lets the worker of a link go on, unless it still waits. -/
def goOn (dues : List (Nat × Nat)) (s : Session) (number : Nat) :
    IO (List (Nat × Nat) × Session) := do
  let now ← IO.monoMsNow
  if now < (dues.lookup number).getD 0 then return (dues, s)
  let found ← match s.path? number with
    | some path => look path
    | none => pure (.error .notFound)
  let s := s.stepLink number found
  return ((number, now + 1000 * s.waitOf number) :: dues.filter (·.1 ≠ number), s)

/-- Lets a session go on until it is over, and prints its events. -/
partial def follow (dues : List (Nat × Nat)) (s : Session) : IO Unit := do
  let surroundings ← presentSurroundings
  let mut state := (dues, { s with rules := { s.rules with surroundings } })
  for _ in List.range Session.stepsOfPass do
    for number in s.links do
      state ← goOn state.1 state.2 number
  let s := state.2.round
  let output ← IO.getStdout
  for line in s.lines do
    output.putStrLn line
  output.flush
  if !s.isOver then
    IO.sleep 100
    follow state.1 { s with lines := [] }

/-- Begins a session and lets it go on. -/
def runHere (arguments : Arguments) : IO (Except Failure Unit) := do
  match ← startLog arguments with
  | .error failure => return .error failure
  | .ok () =>
    match ← readSettings arguments with
    | .error e => return .error (.ofSettings e)
    | .ok settings =>
      let surroundings ← presentSurroundings
      match Session.start arguments settings surroundings (.error "not supported") with
      | .error failure => return .error failure
      | .ok s => do
        follow [] s
        return .ok ()

end LogIntake.CommandLine

open LogIntake.CommandLine in
/-- Reads the command line and runs the program. -/
def main (arguments : List String) : IO UInt32 := do
  match Arguments.parse arguments with
  | .error .help =>
    IO.print helpText
    return 0
  | .error (.misuse e) =>
    IO.eprintln ("error: " ++ e.message ++ "\n\n" ++ usageLine ++
      "\n\nFor more information, try '--help'.")
    return 2
  | .ok arguments =>
    match ← runHere arguments with
    | .ok () => return 0
    | .error failure =>
      IO.eprint failure.text
      return 1
