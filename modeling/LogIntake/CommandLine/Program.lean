import LogIntake.CommandLine.Arguments
import LogIntake.CommandLine.Failure
import LogIntake.Event.Sink
import LogIntake.Registry.Step

/-!
# The threads of the program

The main thread connects the files that were asked for, prints in rounds what the workers push, and
closes the registry in the end. The workers push their events one by one; the tasks of the registry and
the main thread go on in between.

* `Stage`: how far the main thread is.
* `Program`: what the threads share, and what has been printed.
* `Turn`: the thread that goes on.
* `Program.step`: how the program goes on; `Program.goMain`: how its main thread does.
* `Program.begin`: a program as it is started.
-/

namespace LogIntake.CommandLine

/-- A file to connect. -/
structure Opening where
  name : String
  connection : Connection
  /-- What is said if it cannot be connected. -/
  complaint : String

/-- How far the main thread is. -/
inductive Stage where
  /-- It is about to connect the next file. -/
  | connecting (rest : List Opening)
  /-- It waits for the task that connects a file. -/
  | registering (task : Nat) (complaint : String) (rest : List Opening)
  /-- It sleeps before the next round. -/
  | waiting
  /-- It prints what waits in the buffer. -/
  | draining (stopping : Bool)
  /-- It looks whether there is still something to wait for. -/
  | checking (stopping : Bool)
  /-- It waits for the task that closes the registry. -/
  | closing (task : Nat)
  /-- It prints what has come in while the registry was closed. -/
  | emptying
  | ended
  | failed (failure : Failure)

/-- The program with its threads. -/
structure Program where
  rules : RegistryRules
  once : Bool
  detail : Nat
  /-- Whether services are looked for, and why that may be impossible. -/
  discovery : Option (Except String Unit) := none
  registry : Registry := {}
  ring : RingSink Event
  /-- The events that workers are about to push, with the numbers of their links. -/
  handed : List (Nat × Event) := []
  stage : Stage
  /-- Somebody has asked the program to stop. -/
  interrupted : Bool := false
  /-- The lines that have been printed. -/
  lines : List String := []

/-- The line that shows an event. -/
def Program.preview (p : Program) (e : Event) : String :=
  e.preview p.rules.surroundings.almanac.zone Calendar.timeColumn p.detail

/-- The lines that show an event with what was thrown. -/
def Program.eventLines (p : Program) (e : Event) : List String := p.preview e :: e.throwable

/-- The thread that goes on. -/
inductive Turn where
  | main
  /-- Somebody asks the program to stop. -/
  | interrupt
  /-- A service has been found. -/
  | found (service : Service)
  /-- A service has gone. -/
  | gone (key : ServiceKey)
  /-- A task does its next job. -/
  | advance (task : Nat)
  /-- A task that is about to begin a negotiation finds that no worker can be started. -/
  | failWorker (task : Nat) (reason : String)
  /-- Somebody answers the prompt of a link. -/
  | answer (link : Nat) (answer : CredentialAnswer)
  /-- Something happens to the worker of a link. -/
  | work (link : Nat) (input : Input)
  /-- The worker of a link pushes its next event. -/
  | push (link : Nat)

namespace Program

/-! ## The main thread -/

/-- The main thread calls the registry, and waits for the task of the call. -/
def call (p : Program) (call : Call) (stage : Stage) : Program :=
  { p with registry := p.registry.step p.rules (.call call), stage }

/-- Why the program ends before it has begun to print, if it does. -/
def obstacle? (p : Program) : Option Failure :=
  match p.discovery with
  | some (.ok ()) => none
  | some (.error reason) => some ⟨"cannot start mDNS", ["mDNS daemon error: " ++ reason]⟩
  | none =>
    if p.registry.entries.isEmpty then
      some ⟨"nothing to do: no receivers configured, no --file given and discovery is off", []⟩
    else none

/-- The main thread takes the event that has waited longest and prints its lines. If none waits, it
goes on to the next stage. -/
def drain (p : Program) (shown : Event → List String) (next : Stage) : Program :=
  match p.ring.pop with
  | (some e, ring) => { p with ring, lines := p.lines ++ shown e }
  | (none, _) => { p with stage := next }

/-- The main thread goes on. -/
def goMain (p : Program) : Program :=
  match p.stage with
  | .connecting [] =>
    match p.obstacle? with
    | some failure => { p with stage := .failed failure }
    | none => { p with stage := .waiting }
  | .connecting (⟨name, connection, complaint⟩ :: rest) =>
    p.call (.connect (.manual name connection))
      (.registering p.registry.tasks.length complaint rest)
  | .registering task complaint rest =>
    match p.registry.tasks[task]? with
    | some ⟨[], none⟩ => { p with stage := .connecting rest }
    | some ⟨[], some e⟩ => { p with stage := .failed (.ofConnect complaint e) }
    | _ => p
  | .waiting => { p with stage := .draining p.interrupted }
  | .draining stopping => p.drain p.eventLines (.checking stopping)
  | .checking stopping =>
    if stopping || (p.once && p.registry.entries.isEmpty) then
      p.call .shutdown (.closing p.registry.tasks.length)
    else { p with stage := .waiting }
  | .closing task =>
    match p.registry.tasks[task]? with
    | some ⟨[], _⟩ => { p with stage := .emptying }
    | _ => p
  -- what is thrown is not shown any more
  | .emptying => p.drain (fun e => [p.preview e]) .ended
  | .ended | .failed _ => p

/-! ## All threads -/

/-- Whether the worker of a link has still events to push. -/
def isPushing (p : Program) (link : Nat) : Bool := p.handed.any (·.1 = link)

/-- The link whose worker ends with the next job of a task. -/
def leaver? (p : Program) (task : Nat) : Option Nat :=
  match (p.registry.tasks[task]?).map Task.jobs with
  | some (.leave link :: _) => some link
  | _ => none

/-- Whether services are heard of. -/
def hears (p : Program) : Bool := p.discovery matches some (.ok ())

/-- How the program goes on. What is not possible changes nothing: a worker pushes its events before it
does anything else. -/
def step (p : Program) : Turn → Program
  | .main => p.goMain
  | .interrupt => { p with interrupted := true }
  | .found service =>
    if p.hears then { p with registry := p.registry.step p.rules (.call (.resolved service)) } else p
  | .gone key =>
    if p.hears then { p with registry := p.registry.step p.rules (.call (.removed key)) } else p
  | .advance task =>
    if (p.leaver? task).any p.isPushing then p
    else { p with registry := p.registry.step p.rules (.advance task) }
  | .failWorker task reason =>
    { p with registry := p.registry.step p.rules (.failWorker task reason) }
  | .answer link answer => { p with registry := p.registry.step p.rules (.answer link answer) }
  | .work link input =>
    if p.isPushing link then p
    else
      let registry := p.registry.step p.rules (.source link input)
      let fresh := registry.sink.drop p.registry.sink.length
      { p with registry, handed := p.handed ++ fresh.map (link, ·) }
  | .push link =>
    match p.handed.find? (·.1 = link) with
    | none => p
    | some (_, e) => { p with ring := p.ring.push e, handed := p.handed.eraseP (·.1 = link) }

/-- The program after a sequence of turns. -/
def run (p : Program) (turns : List Turn) : Program := turns.foldl step p

/-! ## Beginning -/

/-- The name of the receiver that the command line asks for. -/
def namelessReceiver : String := "command-line"

/-- A connection of a program that reads everything once, or goes on as the connection says. -/
def limited (arguments : Arguments) (connection : Connection) : Connection :=
  { connection with tailing := connection.tailing && !arguments.once }

/-- The connection that the command line asks for. -/
def connectionTo (arguments : Arguments) (uri : String) : Connection :=
  let plain : Connection := {}
  limited arguments
    { uri
      logFormat := arguments.format.getD plain.logFormat
      timestampFormat := arguments.timestampFormat.getD plain.timestampFormat
      promptForUser := true }

/-- The files that the settings name, and that of the command line. -/
def openings (arguments : Arguments) (settings : Settings) : List Opening :=
  settings.receivers.map (fun entry =>
    ⟨entry.name, limited arguments entry.connection,
      "cannot start receiver '" ++ entry.name ++ "'"⟩) ++
  (arguments.file.map fun uri =>
    ⟨namelessReceiver, connectionTo arguments uri,
      "cannot tail " ++ String.ofList (redact uri.toList)⟩).toList

/-- Whether services are to be looked for. -/
def discovers (arguments : Arguments) (settings : Settings) : Bool :=
  settings.discovery.enabled && !arguments.noDiscovery && !arguments.once

/-- A program as it is started; `discovery` tells why it may be impossible to look for services. -/
def begin (arguments : Arguments) (settings : Settings) (surroundings : Surroundings)
    (discovery : Except String Unit) : Program where
  rules :=
    let systems := (FileSystems.mk []).register "file" (localFileSystem fun _ => .error .notFound)
    { negotiation := ⟨systems.requiresCredentials, true⟩
      surroundings
      autoConnect := settings.discovery.autoConnect ++ arguments.autoConnect }
  once := arguments.once
  detail := arguments.detail.getD settings.sink.detail
  discovery := if discovers arguments settings then some discovery else none
  ring := { capacity := settings.sink.capacity }
  stage := .connecting (openings arguments settings)

end Program

end LogIntake.CommandLine
