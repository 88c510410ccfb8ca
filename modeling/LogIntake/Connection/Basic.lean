import LogIntake.Connection.Credentials

/-!
# Connections

* `Connection`: all that a source of lines and its decoder are told.
-/

namespace LogIntake

/-- What a source of lines and its decoder are told. -/
structure Connection where
  uri : String := ""
  logFormat : String := "MESSAGE"
  timestampFormat : String := "yyyy-MM-dd HH:mm:ss,SSS"
  /-- The source is read on as it grows, rather than once. -/
  tailing : Bool := true
  filterExpression : Option String := none
  credentials : Option Credentials := none
  /-- The user may be asked for credentials. -/
  promptForUser : Bool := false
  /-- Lines before the first record are kept. -/
  keepUnmatched : Bool := false
deriving DecidableEq, Repr

end LogIntake
