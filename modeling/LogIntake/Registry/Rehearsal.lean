import LogIntake.Receiver.Script
import LogIntake.Registry.Step

/-!
# Registries whose surroundings follow a script

Sources answer as a script says, and so does the one who is asked for credentials. After every call all
that can go on does so, until nothing changes any more.

* `Rehearsal`: a registry in such surroundings.
* `Note`: what is noted of the calls on sources.
* `Rehearsal.settle`: lets all that can go on do so.
* `Rehearsal.call`, `Rehearsal.answerPrompt`: a call or a late answer, and all that follows from it.
-/

namespace LogIntake

/-- The source of a link, with what is left of its script. -/
structure Actor where
  script : SourceScript
  /-- It has been noted that the source opened after its script was used up. -/
  openNoted : Bool := false

/-- What is noted of the calls on sources. -/
inductive Note where
  /-- The source of a link was to be made. -/
  | created (link : Nat) (connection : Connection)
  | opened (link : Nat) (result : Except SourceError Unit)
  | polled (link : Nat)
  | closed (link : Nat)

/-- A registry in surroundings that follow a script. -/
structure Rehearsal where
  rules : RegistryRules
  /-- The script of the source that is made for a name, a receiver and a connection. -/
  scriptOf : String → ReceiverKind → Connection → SourceScript
  /-- The answers to the prompts to come, one list for each. -/
  answers : List (List CredentialAnswer) := []
  registry : Registry := {}
  actors : List (Nat × Actor) := []
  /-- The links whose prompts have been left open. -/
  openPrompts : List Nat := []
  notes : List Note := []

namespace Rehearsal

/-- Takes a step of the registry. -/
def act (h : Rehearsal) (action : Registry.Action) : Rehearsal :=
  { h with registry := h.registry.step h.rules action }

/-- Notes something. -/
def note (h : Rehearsal) (n : Note) : Rehearsal := { h with notes := h.notes ++ [n] }

/-! ## Tasks -/

/-- Answers a prompt as the script says. -/
def answerScripted (h : Rehearsal) (number : Nat) : Rehearsal :=
  let rest := { h with answers := h.answers.tail }
  match h.answers.head?.getD [] with
  | [] => { rest with openPrompts := h.openPrompts ++ [number] }
  | answers => answers.foldl (fun h answer => h.act (.answer number answer)) rest

/-- Notes that a source was to be made, and sets up its script. -/
def setUpSource (h : Rehearsal) (number : Nat) (connection : Connection) : Rehearsal :=
  let h := h.note (.created number connection)
  match h.registry.links[number]? with
  | none => h
  | some link =>
    let script := h.scriptOf link.service.key.name link.plan.kind connection
    { h with actors := h.actors ++ [(number, { script })] }

/-- Lets a task do its next job. -/
def advance (h : Rehearsal) (task : Nat) : Rehearsal :=
  let after := h.act (.advance task)
  let created := after.registry.creations.drop h.registry.creations.length
  let asked := after.registry.prompts.drop h.registry.prompts.length
  let after := created.foldl (fun h (number, connection) => h.setUpSource number connection) after
  asked.foldl (fun h (number, _) => h.answerScripted number) after

/-! ## Workers -/

/-- Lets something happen to a worker, and notes if it closes its source. -/
def feed (h : Rehearsal) (number : Nat) (input : Input) : Rehearsal :=
  let trace (h : Rehearsal) : List Observation :=
    (((h.registry.links[number]?).bind Link.reception).map (·.worker.trace)).getD []
  let after := h.act (.source number input)
  ((trace after).drop (trace h).length).foldl
    (fun h o => if o.call = .closeSource then h.note (.closed number) else h) after

/-- Whether nothing more happens to a worker unless it is asked to stop: it cannot open its source, or
polls that bring nothing. -/
def isResting (script : SourceScript) (tailing : Bool) (w : Worker) : Bool :=
  !w.signal.closed &&
    match w.phase with
    | .done => true
    | .opening =>
      script.opens.isEmpty &&
        match script.afterOpens with
        | .error .closed | .ok () => false
        | .error _ => true
    | .polling =>
      script.polls.isEmpty && tailing && w.decoder.assembler.pending.isNone &&
        match script.afterPolls with
        | .ok batch => batch.lines.isEmpty
        | .error _ => false
    | _ => false

/-- Notes an answer that a worker is about to receive. After the script is used up only the first
opening is noted. -/
def noteAnswer (h : Rehearsal) (number : Nat) (actor : Actor) (phase : Phase) : Rehearsal × Actor :=
  match phase with
  | .opening =>
    match actor.script.opens, actor.script.afterOpens with
    | reply :: _, _ => (h.note (.opened number reply.result), actor)
    | [], .ok () =>
      if actor.openNoted then (h, actor)
      else (h.note (.opened number (.ok ())), { actor with openNoted := true })
    | [], .error _ => (h, actor)
  | .polling => if actor.script.polls.isEmpty then (h, actor) else (h.note (.polled number), actor)
  | _ => (h, actor)

/-- Lets a worker go on for a number of rounds, or until nothing more happens to it. -/
def playFor (number : Nat) : Nat → Actor → Rehearsal → Rehearsal × Actor
  | 0, actor, h => (h, actor)
  | rounds + 1, actor, h =>
    match (h.registry.links[number]?).bind Link.reception with
    | none => (h, actor)
    | some reception =>
      let w := reception.worker
      if w.phase = .done || isResting actor.script reception.connection.tailing w then (h, actor)
      else
        let (h, actor) := h.noteAnswer number actor w.phase
        let (inputs, script) := actor.script.next w.phase
        playFor number rounds { actor with script } (inputs.foldl (·.feed number ·) h)

/-- Lets the worker of a link go on until nothing more happens to it. -/
def play (h : Rehearsal) (number : Nat) (actor : Actor) : Rehearsal :=
  let rounds := 4 * (actor.script.opens.length + actor.script.polls.length) + 16
  let (h, actor) := playFor number rounds actor h
  { h with
    actors := h.actors.map fun (n, other) => if n = number then (n, actor) else (n, other) }

/-! ## Until nothing changes -/

/-- Lets every task do a job and every worker go on. -/
def round (h : Rehearsal) : Rehearsal :=
  let h := (List.range h.registry.tasks.length).foldl advance h
  h.actors.foldl (fun h (number, actor) => h.play number actor) h

/-- Lets all that can go on do so. A link takes a few jobs until it is running or has ended. -/
def settle (h : Rehearsal) : Rehearsal :=
  (List.range (8 * h.registry.entries.length + 32)).foldl (fun h _ => h.round) h

/-- Makes a call and lets all that can go on do so. The failure of the call is given back. -/
def call (h : Rehearsal) (c : Call) : Option ConnectError × Rehearsal :=
  let number := h.registry.tasks.length
  let h := (h.act (.call c)).settle
  (((h.registry.tasks[number]?).bind Task.failure), h)

/-- Answers one of the prompts that have been left open, if there is one of that number. -/
def answerPrompt (h : Rehearsal) (index : Nat) (answer : CredentialAnswer) : Bool × Rehearsal :=
  match h.openPrompts[index]? with
  | none => (false, h)
  | some number => (true, (h.act (.answer number answer)).settle)

end Rehearsal

end LogIntake
