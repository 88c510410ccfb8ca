import LogIntake.Registry.Basic

/-!
# How a registry goes on

Whatever is done to a registry is a task, a list of jobs. Each job locks one thing once, so that the
jobs of different tasks can follow each other in any order.

* `Job`, `Task`: what is still to be done.
* `Registry.perform`: does a job.
* `Registry.step`: a call, the next job of a task, an answer to a prompt, or an input of a worker.
-/

namespace LogIntake

/-- Something to be done that locks one thing once. -/
inductive Job where
  /-- Refuses a request that cannot be served. -/
  | check (request : Request)
  /-- Registers a link. -/
  | enroll (link : Link)
  /-- Takes a link's negotiation further. -/
  | negotiate (link : Nat) (action : NegotiationAction)
  /-- Goes on with the result of a negotiation: starts the worker if all is well. -/
  | launch (link : Nat)
  /-- Announces a link that has got a worker, and lets others look at its stage again. -/
  | confirm (link : Nat)
  /-- Lets a link be cancelled while it negotiates, or cancels it if it has been stopped. -/
  | keep (link : Nat)
  /-- Takes a link out of force. -/
  | withdraw (link : Nat)
  /-- Stops a link. -/
  | halt (link : Nat)
  /-- Takes a link out of force because its worker has ended. -/
  | leave (link : Nat)
  /-- Ends the worker's thread. -/
  | depart (link : Nat)
  /-- Takes the link of a key out of force, to disconnect it. -/
  | detach (key : ServiceKey)
  /-- Stops a link, whatever it is doing. -/
  | release (link : Nat)
  /-- Asks the worker of a link to stop. -/
  | signal (link : Nat)
  /-- Waits for the worker of a link to end if it has been asked to stop. -/
  | join (link : Nat)
  | announce (event : RegistryEvent)
  /-- Takes every link out of force. The table has no order of its own: here the links are released in
  the order of their keys. -/
  | drain
  /-- Takes note of a service that has been found. -/
  | refresh (service : Service)
  /-- Takes the link of a service that has gone out of force, unless it is established. -/
  | abandon (key : ServiceKey)

/-- What is still to be done for a call, or why the call failed. -/
structure Task where
  jobs : List Job
  failure : Option ConnectError := none

/-- The links so far and what has come of them. -/
structure Registry where
  links : List Link := []
  /-- The links in force, in the order of their keys. -/
  entries : List Entry := []
  cache : CredentialCache := []
  tasks : List Task := []
  /-- What has been asked: the number of the link and the address. -/
  prompts : List (Nat × String) := []
  /-- The sources that were to be made, with their connections. -/
  creations : List (Nat × Connection) := []
  events : List RegistryEvent := []
  /-- The events of all workers in the order in which they were pushed. -/
  sink : List Event := []

/-- What comes of a job: jobs to do next, jobs for a task of its own, or the failure of the task. -/
structure Outcome where
  registry : Registry
  next : List Job := []
  spawned : List (List Job) := []
  failure : Option ConnectError := none

/-- What can be called. -/
inductive Call where
  | connect (request : Request)
  | disconnect (key : ServiceKey)
  | shutdown
  /-- A service has been found. -/
  | resolved (service : Service)
  /-- A service has gone. -/
  | removed (key : ServiceKey)

/-- The first job of a call. -/
def Call.job : Call → Job
  | .connect request => .check request
  | .disconnect key => .detach key
  | .shutdown => .drain
  | .resolved service => .refresh service
  | .removed key => .abandon key

namespace Registry

/-! ## Looking up and changing -/

/-- The entry of a key. -/
def find? (r : Registry) (key : ServiceKey) : Option Entry :=
  r.entries.find? (·.key = key)

/-- Whether a key is taken. -/
def isConnected (r : Registry) (key : ServiceKey) : Bool := (r.find? key).isSome

/-- Whether a link is in force. -/
def isCurrent (r : Registry) (number : Nat) : Bool := r.entries.any (·.link = number)

/-- How far the link of an entry has come. -/
def statusOf (r : Registry) (entry : Entry) : LinkStatus :=
  ((r.links[entry.link]?).map Link.status).getD .connecting

/-- Changes a link. -/
def setLink (r : Registry) (number : Nat) (f : Link → Link) : Registry :=
  { r with links := r.links.modify number f }

/-- Takes a link out of force. -/
def dropLink (r : Registry) (number : Nat) : Registry :=
  { r with entries := r.entries.filter (·.link ≠ number) }

/-- Sets the stage of a link. -/
def setStage (r : Registry) (number : Nat) (stage : LinkStage) : Registry :=
  r.setLink number fun link => { link with stage }

/-- Notes that the source of a link was to be made. -/
def make (r : Registry) (number : Nat) (connection : Connection) : Registry :=
  { r with creations := r.creations ++ [(number, connection)] }

/-- Announces something. -/
def tell (r : Registry) (event : RegistryEvent) : Registry := { r with events := r.events ++ [event] }

/-- Registers a link. -/
def addLink (r : Registry) (link : Link) : Registry :=
  { r with
    links := r.links ++ [link]
    entries := Entry.insert ⟨link.service, r.links.length⟩ r.entries }

/-! ## Doing a job -/

/-- The jobs of the worker of a negotiation. -/
def negotiationJobs (number : Nat) : List Job :=
  [.negotiate number .ask, .negotiate number .take, .negotiate number .settle, .launch number]

/-- Takes the negotiation of a link further. -/
def negotiateLink (rules : RegistryRules) (r : Registry) (number : Nat) (link : Link)
    (action : NegotiationAction) : Outcome :=
  let (cache, negotiation) := link.negotiation.step rules.negotiation r.cache action
  let changed := { r with cache }.setLink number fun link => { link with negotiation }
  match action, link.negotiation.phase, negotiation.phase with
  | .start _, .fresh, .starting => { registry := changed, spawned := [negotiationJobs number] }
  | .start _, .fresh, _ => { registry := changed, next := [.launch number] }
  | .ask, .starting, _ =>
    { registry := { changed with prompts := r.prompts ++ [(number, link.negotiation.key)] } }
  | .take, .waiting, .waiting => { registry := r, next := [.negotiate number .take] }
  | _, _, _ => { registry := changed }

/-- Goes on with the result of a negotiation. A link that has been stopped gets no worker. The worker
may go on at once, before the link is confirmed. A worker always gets its thread here: a system that
has none to give is left out. -/
def launchLink (rules : RegistryRules) (r : Registry) (number : Nat) (link : Link) : Outcome :=
  match link.negotiation.result? with
  | none => { registry := r }
  | some result =>
    let (cache, negotiation) := link.negotiation.step rules.negotiation r.cache .report
    let reported := { r with cache }.setLink number fun link => { link with negotiation }
    match result with
    | .error _ => { registry := reported.dropLink number, next := [.halt number] }
    | .ok connection =>
      if link.stage = .stopped then { registry := reported }
      else
        let asked := reported.make number connection
        match rules.create link.service.key.name link.plan.kind connection with
        | .error _ => { registry := asked.setStage number .stopped, next := [.withdraw number] }
        | .ok () =>
          let reception : Reception := { connection, worker := { decoder := link.decoder } }
          let launching := asked.setLink number fun link =>
            { link with stage := .launching, reception := some reception }
          { registry := launching, next := [.confirm number] }

/-- Does a job that looks at the stage of a link. It has to wait while the link is being launched. -/
def whenFree (r : Registry) (number : Nat) (job : Job) (act : Link → Outcome) : Outcome :=
  match r.links[number]? with
  | none => { registry := r }
  | some link => if link.stage = .launching then { registry := r, next := [job] } else act link

/-- What a stopped link still needs: its negotiation is cancelled or its worker asked to stop. -/
def endingJobs (number : Nat) : LinkStage → List Job
  | .negotiating => [.negotiate number (.reply .cancelled)]
  | .running => [.signal number]
  | .pending | .launching | .stopped => []

/-- Does a job. -/
def perform (rules : RegistryRules) (r : Registry) : Job → Outcome
  | .check request =>
    if r.isConnected request.key then
      { registry := r, failure := some (.alreadyConnected request.key) }
    else match request.prepare with
      | .ok link => { registry := r, next := [.enroll link] }
      | .error e => { registry := r, failure := some e }
  | .enroll link =>
    if r.isConnected link.service.key then
      { registry := r, failure := some (.alreadyConnected link.service.key) }
    else
      let number := r.links.length
      { registry := r.addLink link, next := [.negotiate number (.start (.ok ())), .keep number] }
  | .negotiate number action =>
    match r.links[number]? with
    | some link => r.negotiateLink rules number link action
    | none => { registry := r }
  | .launch number =>
    match r.links[number]? with
    | some link => r.launchLink rules number link
    | none => { registry := r }
  | .confirm number =>
    match r.links[number]? with
    | some link =>
      if link.stage = .launching then
        { registry := (r.setStage number .running).tell (.connected number link.service) }
      else { registry := r }
    | none => { registry := r }
  | .keep number =>
    r.whenFree number (.keep number) fun link =>
      match link.stage with
      | .pending => { registry := r.setStage number .negotiating }
      | .stopped => { registry := r, next := [.negotiate number (.reply .cancelled)] }
      | .negotiating | .launching | .running => { registry := r }
  | .withdraw number => { registry := r.dropLink number }
  | .halt number =>
    r.whenFree number (.halt number) fun _ => { registry := r.setStage number .stopped }
  | .leave number =>
    match r.links[number]? with
    | none => { registry := r }
    | some link =>
      let last : List Job :=
        if r.isCurrent number then [.announce (.disconnected number link.service)] else []
      { registry := r.dropLink number, next := .halt number :: last ++ [.depart number] }
  | .depart number =>
    { registry := r.setLink number fun link =>
        { link with reception := link.reception.map fun reception =>
            { reception with exited := true } } }
  | .detach key =>
    match r.find? key with
    | none => { registry := r, failure := some (.notConnected key) }
    | some entry =>
      { registry := { r with entries := r.entries.filter (·.key ≠ key) }
        next := [.release entry.link, .join entry.link,
          .announce (.disconnected entry.link entry.service)] }
  | .release number =>
    r.whenFree number (.release number) fun link =>
      { registry := r.setStage number .stopped, next := endingJobs number link.stage }
  | .signal number =>
    { registry := r.setLink number fun link =>
        { link with reception := link.reception.map fun reception =>
            { reception with
              worker := { reception.worker with signal := reception.worker.signal.close } } } }
  | .join number =>
    if ((r.links[number]?).map Link.isStopping).getD false then
      { registry := r, next := [.join number] }
    else { registry := r }
  | .announce event => { registry := r.tell event }
  | .drain =>
    { registry := { r with entries := [] }
      next :=
        r.entries.map (fun entry => .release entry.link) ++
        r.entries.map (fun entry => .join entry.link) ++
        r.entries.map fun entry => .announce (.disconnected entry.link entry.service) }
  | .refresh service =>
    if r.isConnected service.key then
      { registry :=
          { r with
            entries := r.entries.map fun entry =>
              if entry.key = service.key then { entry with service } else entry } }
    else if rules.autoConnects service then
      { registry := r, next := [.check (.found service)] }
    else { registry := r }
  | .abandon key =>
    match r.find? key with
    | none => { registry := r }
    | some entry =>
      r.whenFree entry.link (.abandon key) fun link =>
        if link.isEstablishing then
          { registry := { r with entries := r.entries.filter (·.key ≠ key) }
            next := [.release entry.link, .announce (.disconnected entry.link entry.service)] }
        else { registry := r }

/-! ## Steps -/

/-- What can happen to a registry. -/
inductive Action where
  /-- Somebody calls. -/
  | call (call : Call)
  /-- A task does its next job. -/
  | advance (task : Nat)
  /-- A task that is about to begin a negotiation finds that no worker can be started. -/
  | failWorker (task : Nat) (reason : String)
  /-- Somebody answers the prompt of a link. -/
  | answer (link : Nat) (answer : CredentialAnswer)
  /-- Something happens to the worker of a link. -/
  | source (link : Nat) (input : Input)

/-- Sets what a task still has to do after its first job, and adds the tasks that the job has
spawned. -/
def afterJob (number : Nat) (rest : List Job) (outcome : Outcome) : Registry :=
  let r := outcome.registry
  { r with
    tasks :=
      r.tasks.set number ⟨outcome.next ++ rest, outcome.failure⟩ ++ outcome.spawned.map (⟨·, none⟩) }

/-- Does the next job of a task. -/
def advance (rules : RegistryRules) (r : Registry) (number : Nat) : Registry :=
  match (r.tasks[number]?).map Task.jobs with
  | some (job :: rest) => afterJob number rest (r.perform rules job)
  | _ => r

/-- Lets a negotiation that a task is about to begin find no worker. -/
def failWorker (rules : RegistryRules) (r : Registry) (number : Nat) (reason : String) : Registry :=
  match (r.tasks[number]?).map Task.jobs with
  | some (.negotiate link (.start _) :: rest) =>
    afterJob number rest (r.perform rules (.negotiate link (.start (.error reason))))
  | _ => r

/-- What a worker is told by the rules of its registry. -/
def settingsOf (rules : RegistryRules) (link : Link) (reception : Reception) : ReceiverSettings :=
  ⟨rules.surroundings, link.filter, reception.connection.tailing⟩

/-- Lets something happen to the worker of a link. A worker that ends has a task of its own. -/
def feedWorker (rules : RegistryRules) (r : Registry) (number : Nat) (input : Input) : Registry :=
  match r.links[number]? with
  | none => r
  | some link =>
    match link.reception with
    | none => r
    | some reception =>
      let worker := reception.worker.step (settingsOf rules link reception) input
      let ended := worker.phase = .done && reception.worker.phase ≠ .done
      let changed := r.setLink number fun link =>
        { link with reception := some { reception with worker } }
      { changed with
        sink := r.sink ++ worker.pushed.drop reception.worker.pushed.length
        tasks := r.tasks ++ if ended then [⟨[.leave number], none⟩] else [] }

/-- How a registry goes on. What is not possible changes nothing. -/
def step (rules : RegistryRules) (r : Registry) : Action → Registry
  | .call call => { r with tasks := r.tasks ++ [⟨[call.job], none⟩] }
  | .advance task => r.advance rules task
  | .failWorker task reason => r.failWorker rules task reason
  | .answer link answer =>
    (r.perform rules (.negotiate link (.reply answer))).registry
  | .source link input => r.feedWorker rules link input

/-- The registry after a sequence of actions. -/
def run (rules : RegistryRules) (r : Registry) (actions : List Action) : Registry :=
  actions.foldl (step rules) r

end Registry

end LogIntake
