import LogIntake.Service.Basic

/-!
# Finding services

A transport tells which names appear and vanish. A name is resolved by a thread of its own, since that
takes time; whatever has been removed meanwhile must not come back.

* `TransportEvent`, `Notification`: what comes from the transport and what goes to listeners.
* `Discovery`: the services known and all that is under way.
* `Discovery.step`: how this goes on. A change is recorded in one step and told in another.
-/

namespace LogIntake

/-- What a transport tells. -/
inductive TransportEvent where
  /-- A name has appeared, of which nothing else is known. -/
  | added (key : ServiceKey)
  | resolved (service : Service)
  | removed (key : ServiceKey)
deriving DecidableEq, Repr

/-- What listeners are told. -/
inductive Notification where
  | resolved (service : Service)
  | removed (key : ServiceKey)
deriving DecidableEq, Repr

/-- Why services cannot be looked for. -/
inductive DiscoveryError where
  | daemon (reason : String)
  | browse (type reason : String)
deriving DecidableEq, Repr

/-- The wording of a refusal. -/
def DiscoveryError.message : DiscoveryError → String
  | .daemon reason => "mDNS daemon error: " ++ reason
  | .browse type reason => "cannot browse " ++ type ++ ": " ++ reason

/-- Something that a thread is to do. `seen` is the number of removals when a resolving began. -/
inductive Chore where
  /-- Sees whether the search has ended. -/
  | check (service : Service) (seen : Option Nat)
  /-- Records a service. -/
  | record (service : Service) (seen : Option Nat)
  /-- Records that a service has gone. -/
  | forget (key : ServiceKey)
  /-- Tells the listeners. -/
  | tell (notification : Notification)
deriving DecidableEq, Repr

/-- A thread that resolves a name. -/
structure Resolver where
  key : ServiceKey
  /-- How often the service had been removed when the thread was started. -/
  seen : Nat
  /-- The transport has not answered yet. -/
  waiting : Bool := true
  chores : List Chore := []
deriving DecidableEq, Repr

/-- The services known and all that is under way. -/
structure Discovery where
  /-- The services in the order of their keys. -/
  services : List Service := []
  /-- How often each service has been removed. -/
  removals : List (ServiceKey × Nat) := []
  /-- What the transport has told and nobody has looked at. -/
  queue : List TransportEvent := []
  /-- The thread that looks at the queue has seen that the search goes on, and waits for an event. -/
  ready : Bool := false
  /-- What the thread that looks at the queue is doing. -/
  dispatcher : List Chore := []
  resolvers : List Resolver := []
  /-- What a listener has been told that was there from the start. -/
  told : List Notification := []
  closed : Bool := false
deriving DecidableEq, Repr

namespace Discovery

/-- The service of a key. -/
def get? (d : Discovery) (key : ServiceKey) : Option Service :=
  d.services.find? (·.key = key)

/-- The first service of a name, in the order of the keys. -/
def find? (d : Discovery) (name : String) : Option Service :=
  d.services.find? (·.key.name = name)

/-- How often a service has been removed. -/
def removalsOf (d : Discovery) (key : ServiceKey) : Nat :=
  (d.removals.lookup key).getD 0

/-- The services with one more, which replaces an earlier one of its key. -/
def insert (service : Service) (services : List Service) : List Service :=
  services.filter (·.key.precedes service.key) ++ service ::
    services.filter fun other => service.key.precedes other.key

/-- Does a chore, with the chores that follow from it. -/
def perform (d : Discovery) : Chore → Discovery × List Chore
  | .check service seen => (d, if d.closed then [] else [.record service seen])
  | .record service seen =>
    if seen.any (· ≠ d.removalsOf service.key) then (d, [])
    else
      ({ d with services := insert service d.services },
        if d.get? service.key = some service then [] else [.tell (.resolved service)])
  | .forget key =>
    ({ d with
        services := d.services.filter (·.key ≠ key)
        removals := (key, d.removalsOf key + 1) :: d.removals.filter (·.1 ≠ key) },
      [.tell (.removed key)])
  | .tell notification => ({ d with told := d.told ++ [notification] }, [])

/-! ## Steps -/

/-- What can happen. -/
inductive Action where
  /-- The transport tells something. -/
  | send (event : TransportEvent)
  /-- The thread that looks at events sees whether the search has ended. -/
  | look
  /-- The next event is looked at. It may have come after the search ended. -/
  | dispatch
  /-- The thread that looks at events does its next chore. -/
  | advance
  /-- The transport answers a thread that resolves a name. -/
  | resolve (resolver : Nat) (answer : Option Service)
  /-- A thread that resolves a name does its next chore. -/
  | advanceResolver (resolver : Nat)
  /-- The search ends. -/
  | close
deriving DecidableEq, Repr

/-- Looks at an event. -/
def take (d : Discovery) : TransportEvent → Discovery
  | .added key =>
    { d with resolvers := d.resolvers ++ [{ key, seen := d.removalsOf key }] }
  | .resolved service => { d with dispatcher := [.check service none] }
  | .removed key => { d with dispatcher := [.forget key] }

/-- How the search goes on. What is not possible changes nothing. -/
def step (d : Discovery) : Action → Discovery
  | .send event => { d with queue := d.queue ++ [event] }
  | .look => if d.closed || !d.dispatcher.isEmpty then d else { d with ready := true }
  | .dispatch =>
    match d.queue with
    | [] => d
    | event :: rest =>
      if !d.ready || !d.dispatcher.isEmpty then d
      else { d with queue := rest, ready := false }.take event
  | .advance =>
    match d.dispatcher with
    | [] => d
    | chore :: rest =>
      let (d, more) := d.perform chore
      { d with dispatcher := more ++ rest }
  | .resolve number answer =>
    match d.resolvers[number]? with
    | none => d
    | some resolver =>
      if !resolver.waiting then d
      else
        let chores : List Chore :=
          match answer with
          | none => []
          | some service => [.check service (some resolver.seen)]
        { d with
          resolvers := d.resolvers.set number { resolver with waiting := false, chores } }
  | .advanceResolver number =>
    match d.resolvers[number]? with
    | none => d
    | some resolver =>
      match resolver.chores with
      | [] => d
      | chore :: rest =>
        let (d, more) := d.perform chore
        { d with
          resolvers := d.resolvers.set number { resolver with chores := more ++ rest } }
  | .close => { d with closed := true }

/-- The search after a sequence of actions. -/
def run (d : Discovery) (actions : List Action) : Discovery :=
  actions.foldl step d

/-- What a listener believes that has been told of changes one after the other. -/
def replay (told : List Notification) : List Service :=
  told.foldl (fun services notification =>
    match notification with
    | .resolved service => insert service services
    | .removed key => services.filter (·.key ≠ key)) []

end Discovery

end LogIntake
