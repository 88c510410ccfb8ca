import LogIntake.Discovery.Basic
import LogIntake.Registry.Rehearsal

/-!
# Searches whose transport follows a script

* `TransportCall`: the calls on a transport.
* `Search`: a search whose transport answers as it is told, with a registry that may listen.
* `Search.start?`: begins to look for services of some types.
* `Search.added`, `Search.release`, `Search.tell`, `Search.close`: what can happen, and all that follows.
-/

namespace LogIntake

/-- A call on a transport. -/
inductive TransportCall where
  | browse (type : String)
  | stop (type : String)
  | resolve (key : ServiceKey) (timeout : Nat)
  | shutdown
deriving DecidableEq, Repr

/-- An answer that the transport holds back. -/
structure HeldAnswer where
  key : ServiceKey
  resolver : Nat
  answer : Option Service
deriving DecidableEq, Repr

/-- A search whose transport does as it is told. -/
structure Search where
  types : List String
  /-- How long resolving may take, in seconds. -/
  timeout : Nat
  discovery : Discovery := {}
  calls : List TransportCall := []
  held : List HeldAnswer := []
  /-- The registry that listens. -/
  registry : Option Rehearsal := none

namespace Search

/-- How long resolving may take if nothing else is said, in seconds. -/
def defaultTimeout : Nat := 10

/-- The calls that end a search. -/
def endingCalls (types : List String) : List TransportCall :=
  types.map .stop ++ [.shutdown]

/-- The calls that begin a search, up to the first type that cannot be looked for. -/
def beginningCalls (fails : String → Option String) : List String → List TransportCall ×
    Option DiscoveryError
  | [] => ([], none)
  | type :: rest =>
    match fails type with
    | some reason => ([.browse type], some (.browse type reason))
    | none =>
      let (calls, failure) := beginningCalls fails rest
      (.browse type :: calls, failure)

/-- Begins a search. If that fails it is ended at once; the calls made are given back. -/
def start? (types : List String) (timeout : Nat) (fails : String → Option String)
    (registry : Option Rehearsal) : Except (DiscoveryError × List TransportCall) Search :=
  match beginningCalls fails types with
  | (calls, some e) => .error (e, calls ++ endingCalls types)
  | (calls, none) => .ok { types, timeout, calls, registry }

/-- Tells the registry that listens what listeners have been told since an earlier state. -/
def informRegistry (before : Discovery) (s : Search) : Search :=
  let news := s.discovery.told.drop before.told.length
  let hear (h : Rehearsal) : Notification → Rehearsal
    | .resolved service => (h.call (.resolved service)).2
    | .removed key => (h.call (.removed key)).2
  { s with registry := s.registry.map fun h => news.foldl hear h }

/-- Takes steps, one of which may have to be told. -/
def act (s : Search) (actions : List Discovery.Action) : Search :=
  informRegistry s.discovery { s with discovery := s.discovery.run actions }

/-- Looks at the event that waits: it is checked, recorded and told. -/
def dispatched : List Discovery.Action := [.look, .dispatch, .advance, .advance, .advance]

/-- Whether the transport still tells anything about services of a type. -/
def isBrowsed (s : Search) (type : String) : Bool :=
  !s.discovery.closed && s.types.contains type

/-- An answer reaches the thread that waits for it. -/
def answered (s : Search) (number : Nat) (answer : Option Service) : Search :=
  s.act [.resolve number answer, .advanceResolver number, .advanceResolver number,
    .advanceResolver number]

/-- A name appears. What the transport will answer is given; it may hold the answer back. -/
def added (s : Search) (key : ServiceKey) (answer : Option Service) (hold : Bool) : Bool × Search :=
  if !s.isBrowsed key.type then (false, s)
  else
    let number := s.discovery.resolvers.length
    let s := s.act (.send (.added key) :: dispatched)
    let s := { s with calls := s.calls ++ [TransportCall.resolve key s.timeout] }
    let later : HeldAnswer := ⟨key, number, answer⟩
    (true, if hold then { s with held := s.held ++ [later] } else s.answered number answer)

/-- The transport gives the oldest answer for a name that it has held back. -/
def release (s : Search) (key : ServiceKey) : Bool × Search :=
  match s.held.find? (·.key = key) with
  | none => (false, s)
  | some first => (true, { s with held := s.held.erase first }.answered first.resolver first.answer)

/-- The transport tells something about a service. -/
def tell (s : Search) (type : String) (event : TransportEvent) : Bool × Search :=
  if !s.isBrowsed type then (false, s) else (true, s.act (.send event :: dispatched))

/-- Ends the search. -/
def close (s : Search) : Search :=
  if s.discovery.closed then s
  else { s.act [.close] with calls := s.calls ++ endingCalls s.types }

end Search

end LogIntake
