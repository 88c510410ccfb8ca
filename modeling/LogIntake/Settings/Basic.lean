import LogIntake.Connection.Basic

/-!
# Settings

* `Settings`: what can be set for the whole program, with the values that hold if nothing is set.
* `ReceiverEntry`: a receiver that is started by name.
* `defaultDocument`: the document that is written for a user who has none.
-/

namespace LogIntake

/-- What is set about the discovery of services. -/
structure DiscoverySettings where
  enabled : Bool := true
  /-- The names of the services that are connected to as soon as they are found. -/
  autoConnect : List String := []
deriving DecidableEq, Repr

/-- How long receivers wait, in seconds. -/
structure TimingSettings where
  /-- Between two polls. -/
  poll : Nat := 5
  /-- Between two attempts to open a source. -/
  retry : Nat := 10
deriving DecidableEq, Repr

/-- What is set about the display of events. -/
structure SinkSettings where
  /-- How many events can wait. -/
  capacity : Nat := 16384
  /-- How many columns a preview has. -/
  detail : Nat := 4
deriving DecidableEq, Repr

/-- A receiver under a name. -/
structure ReceiverEntry where
  name : String
  connection : Connection
deriving DecidableEq, Repr

/-- What can be set for the whole program. -/
structure Settings where
  discovery : DiscoverySettings := {}
  timing : TimingSettings := {}
  sink : SinkSettings := {}
  receivers : List ReceiverEntry := []
deriving DecidableEq, Repr

/-- Whether a receiver polls again and again, and how long it waits. -/
structure ReceiverOptions where
  tailing : Bool
  poll : Nat
  retry : Nat
deriving DecidableEq, Repr

/-- The options of a receiver. -/
def TimingSettings.options (timing : TimingSettings) (tailing : Bool) : ReceiverOptions :=
  ⟨tailing, timing.poll, timing.retry⟩

/-- The document that is written for a user who has none. It says what holds without it. -/
def defaultDocument : String :=
  "[discovery]\n" ++
  "enabled      = true\n" ++
  "auto_connect = []\n" ++
  "\n" ++
  "[timing]\n" ++
  "poll_interval_secs  = 5\n" ++
  "retry_interval_secs = 10\n" ++
  "\n" ++
  "[sink]\n" ++
  "ring_buffer_size = 16384\n" ++
  "detail_level     = 4\n" ++
  "\n" ++
  "# [[receivers]]\n" ++
  "# name             = \"app\"\n" ++
  "# file_url         = \"file:///var/log/app.log\"\n" ++
  "# log_format       = \"TIMESTAMP LEVEL [THREAD] LOGGER - MESSAGE\"\n" ++
  "# timestamp_format = \"yyyy-MM-dd HH:mm:ss,SSS\"\n" ++
  "# tailing          = true\n"

end LogIntake
