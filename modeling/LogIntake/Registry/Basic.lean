import LogIntake.File.Tail
import LogIntake.Negotiation.Basic
import LogIntake.Receiver.Worker
import LogIntake.Service.Receiver

/-!
# The registry of connected services

* `Request`: a service to connect, or a file under a name.
* `Request.prepare`: all that can be wrong with a request, and else the link to set up.
* `Link`: the connection of a service, from its registration to the end of its worker.
* `Registry`: the links so far, the entries that show which of them are in force, and what has been
  announced.
-/

namespace LogIntake

/-- What can be asked to be connected. -/
inductive Request where
  /-- A service that has been found. -/
  | found (service : Service)
  /-- A file, set up by hand under a name. -/
  | manual (name : String) (connection : Connection)
deriving DecidableEq, Repr

/-- Where a link stands. -/
inductive LinkStage where
  /-- It has been registered. -/
  | pending
  /-- Its negotiation can be cancelled. -/
  | negotiating
  /-- It has just got a worker. Nobody else can look at the stage until that has been announced. -/
  | launching
  /-- It has a worker. -/
  | running
  /-- It has ended, or must not begin. -/
  | stopped
deriving DecidableEq, Repr

/-- A worker with the connection that its source was made with. -/
structure Reception where
  connection : Connection
  worker : Worker
  /-- The worker has ended and told so. -/
  exited : Bool := false

/-- The connection of a service. -/
structure Link where
  /-- The service as it was when the link was asked for. -/
  service : Service
  plan : ReceiverPlan
  decoder : Decoder
  filter : Option TextFilter := none
  stage : LinkStage := .pending
  negotiation : Negotiation
  reception : Option Reception := none

/-- A link in force, under the latest that is known of its service. -/
structure Entry where
  service : Service
  /-- The number of the link. -/
  link : Nat
deriving DecidableEq, Repr

/-- What is announced about a link, with its number. -/
inductive RegistryEvent where
  | connected (link : Nat) (service : Service)
  | disconnected (link : Nat) (service : Service)
deriving DecidableEq, Repr

/-- How far a link in force has come. -/
inductive LinkStatus where
  | negotiating
  | connecting
  | receiving
deriving DecidableEq, Repr

/-! ## Requests -/

namespace Request

/-- The service that a request is about. -/
def toService : Request → Service
  | .found service => service
  | .manual name _ => .manual name

/-- The key that a request takes. -/
def key (request : Request) : ServiceKey := request.toService.key

/-- The receiver for a request. -/
def plan : Request → Except ConnectError ReceiverPlan
  | .found service => service.receiver
  | .manual _ connection => .ok ⟨.file, connection⟩

/-- The link for a request, unless its service cannot be received, the address of its file cannot be
read, or its template or timestamp pattern cannot be compiled. -/
def prepare (request : Request) : Except ConnectError Link := do
  let service := request.toService
  let plan ← request.plan
  let connection := plan.connection
  if plan.kind = .file then
    let _ ← (Uri.read connection.uri).mapError fun e => .invalidService e.message
  let decoder ← (Decoder.new service.key.name connection.logFormat connection.timestampFormat
    connection.keepUnmatched).mapError .format
  return {
    service
    plan
    decoder
    filter := TextFilter.ofExpression? connection.filterExpression
    negotiation := { connection } }

end Request

/-! ## Links -/

namespace Link

/-- How far a link has come. -/
def status (link : Link) : LinkStatus :=
  match link.stage with
  | .pending | .negotiating => .negotiating
  | .stopped => .connecting
  | .launching | .running =>
    match link.reception with
    | some reception => if reception.worker.connected then .receiving else .connecting
    | none => .connecting

/-- Whether the link is still to be established: its source has never been open. -/
def isEstablishing (link : Link) : Bool :=
  match link.stage with
  | .pending | .negotiating => true
  | .stopped => false
  | .launching | .running =>
    match link.reception with
    | some reception => !reception.worker.hasOpened
    | none => true

/-- Whether there is a worker that has been asked to stop and has not ended. -/
def isStopping (link : Link) : Bool :=
  match link.reception with
  | some reception => reception.worker.signal.closed && !reception.exited
  | none => false

end Link

/-! ## Entries -/

namespace Entry

/-- The key of an entry. -/
def key (entry : Entry) : ServiceKey := entry.service.key

/-- The entries with one more, in the order of the keys. -/
def insert (entry : Entry) (entries : List Entry) : List Entry :=
  entries.filter (·.key.precedes entry.key) ++ entry ::
    entries.filter fun other => !other.key.precedes entry.key

end Entry

/-- Makes the source of a receiver that is not replaced by another: a file needs an address. -/
def defaultSource (name : String) (kind : ReceiverKind) (connection : Connection) :
    Except OpenError Unit :=
  match kind.socket? with
  | some _ => .ok ()
  | none =>
    let source : Except OpenError (TailSource String) := TailSource.new name connection
    source.map fun _ => ()

/-- What a registry is told. -/
structure RegistryRules where
  negotiation : NegotiationRules
  surroundings : Surroundings
  /-- The names of the services that are connected as soon as they are found. -/
  autoConnect : List String := []
  /-- Makes the source of a receiver. -/
  create : String → ReceiverKind → Connection → Except String Unit :=
    fun name kind connection => (defaultSource name kind connection).mapError OpenError.message

/-- Whether a service is connected as soon as it is found. -/
def RegistryRules.autoConnects (rules : RegistryRules) (service : Service) : Bool :=
  rules.autoConnect.contains service.key.name

end LogIntake
