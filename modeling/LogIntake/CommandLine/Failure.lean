import LogIntake.Service.Receiver
import LogIntake.Settings.Load

/-!
# Failures of the program

* `Failure`: what failed, with the causes behind it.
* `Failure.text`: how a failure is shown.
-/

namespace LogIntake.CommandLine

/-- What failed, and what caused it, the nearest cause first. -/
structure Failure where
  message : String
  causes : List String := []
deriving DecidableEq, Repr

namespace Failure

/-- The lines of a text after its first one are moved to the right. -/
def indented (spaces : Nat) (text : String) : String :=
  let gap := String.ofList (List.replicate spaces ' ')
  ("\n" ++ gap).intercalate ((Text.split '\n' text.toList).map String.ofList)

/-- A cause with its number, counted from 0. -/
def numbered (number : Nat) (cause : String) : String :=
  let digits := String.ofList (Nat.toDigits 10 number)
  String.ofList (List.replicate (5 - digits.length) ' ') ++ digits ++ ": " ++ indented 7 cause

/-- The text of a failure. A cause that stands alone has no number. -/
def text (failure : Failure) : String :=
  "Error: " ++ failure.message ++
    match failure.causes with
    | [] => "\n"
    | [cause] => "\n\nCaused by:\n    " ++ indented 4 cause ++ "\n"
    | causes =>
      "\n\nCaused by:\n" ++
        String.join (causes.zipIdx.map fun (cause, number) => numbered number cause ++ "\n")

/-- A service that cannot be connected. A wrong format is a cause of its own. -/
def ofConnect (message : String) (e : ConnectError) : Failure where
  message
  causes := e.message ::
    match e with
    | .format e => [e.message]
    | _ => []

/-- Settings that cannot be loaded. A fault of the disk is a cause of its own. -/
def ofSettings (e : SettingsError) : Failure where
  message := "cannot load configuration"
  causes := e.message ::
    match e with
    | .io fault => [fault.text]
    | .invalid => []

/-- A file for diagnostics that cannot be written to. -/
def ofLog (path : String) (fault : Fault) : Failure :=
  ⟨"cannot open debug log " ++ path, [fault.text]⟩

end Failure

end LogIntake.CommandLine
