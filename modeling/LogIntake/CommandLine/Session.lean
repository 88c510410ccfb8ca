import LogIntake.CommandLine.Program

/-!
# Sessions of the program

In a session the threads of the program take their turns one after the other, and all sources are files.
What stands under the path of a file is told to it whenever it looks there.

* `Session.start`: connects all files.
* `Session.stepLink`: lets the worker of a link go on.
* `Session.round`: a round of the main thread.
-/

namespace LogIntake.CommandLine

/-- A program whose sources are files. -/
structure Session extends Program where
  timing : TimingSettings := {}
  /-- The sources, with the numbers of their links. -/
  sources : List (Nat × TailSource String) := []

namespace Session

/-- A thread goes on. -/
def turn (s : Session) (turn : Turn) : Session := { s with toProgram := s.toProgram.step turn }

/-! ## Tasks -/

/-- Sets up the source of a link. -/
def addSource (s : Session) (number : Nat) (connection : Connection) : Session :=
  match s.registry.links[number]? with
  | none => s
  | some link =>
    match TailSource.new link.service.key.name connection with
    | .ok source => { s with sources := s.sources ++ [(number, source)] }
    | .error _ => s

/-- Lets a task do its next job. -/
def advance (s : Session) (task : Nat) : Session :=
  let after := s.turn (.advance task)
  let created := after.registry.creations.drop s.registry.creations.length
  created.foldl (fun s (number, connection) => s.addSource number connection) after

/-- More jobs than a task has that waits for nobody. -/
def jobsOfTask : Nat := 16

/-- Lets all tasks do their jobs. -/
def finishTasks (s : Session) : Session :=
  (List.range jobsOfTask).foldl
    (fun s _ => (List.range s.registry.tasks.length).foldl advance s) s

/-! ## Beginning -/

/-- The main thread goes on, and all tasks do what there is to do. -/
def goMain (s : Session) : Session := (s.turn .main).finishTasks

/-- Connects the files of the settings and of the command line. Services are looked for if that is
wanted; `discovery` tells why it may be impossible. -/
def start (arguments : Arguments) (settings : Settings) (surroundings : Surroundings)
    (discovery : Except String Unit) : Except Failure Session :=
  let program := Program.begin arguments settings surroundings discovery
  let connected := (Program.openings arguments settings).foldl (fun s _ => s.goMain.goMain)
    ({ toProgram := program, timing := settings.timing } : Session)
  let s := connected.goMain
  match s.stage with
  | .failed failure => .error failure
  | _ => .ok s

/-! ## Going on -/

/-- The links that have a source. -/
def links (s : Session) : List Nat := s.sources.map (·.1)

/-- The worker of a link. -/
def worker? (s : Session) (number : Nat) : Option Worker :=
  ((s.registry.links[number]?).bind Link.reception).map (·.worker)

/-- What the worker of a link is doing. -/
def phase? (s : Session) (number : Nat) : Option Phase := (s.worker? number).map (·.phase)

/-- The path under which a link looks next, if that is what it does next. -/
def path? (s : Session) (number : Nat) : Option String :=
  match s.phase? number, s.sources.lookup number with
  | some .opening, some source | some .polling, some source => some source.uri.path
  | _, _ => none

/-- How many seconds a link waits before it goes on. -/
def waitOf (s : Session) (number : Nat) : Nat :=
  match s.phase? number with
  | some .idle => s.timing.poll
  | some .retrying => s.timing.retry
  | _ => 0

/-- The answer of a source that finds a given thing under its path, and the source after it. -/
def answerOf (found : Except Fault Node) (phase : Phase) (source : TailSource String) :
    Input × TailSource String :=
  match phase with
  | .opening =>
    let systems := (FileSystems.mk []).register "file" (localFileSystem fun _ => found)
    match source.openFile systems with
    | .ok source => (.opened (.ok ()), source)
    | .error e => (.opened (.error e), source)
  | .polling =>
    match source.poll fun _ => .ofNode found with
    | .ok (batch, source) => (.polled (.ok batch), source)
    | .error e => (.polled (.error e), source)
  | _ => (.tick, source)

/-- Lets the worker of a link push all events that it has to push. -/
def pushAll (s : Session) (number : Nat) : Session :=
  (s.handed.filter (·.1 = number)).foldl (fun s _ => s.turn (.push number)) s

/-- Lets the worker of a link go on. A source that its worker leaves is closed. -/
def stepLink (s : Session) (number : Nat) (found : Except Fault Node) : Session :=
  match s.worker? number, s.sources.lookup number with
  | some worker, some source =>
    let (input, source) := answerOf found worker.phase source
    let s := (s.turn (.work number input)).pushAll number
    let source := match s.phase? number with
      | some .retrying | some .done => source.closeFile
      | _ => source
    let sources := s.sources.map fun (n, other) => (n, if n = number then source else other)
    { s with sources }.finishTasks
  | _, _ => s

/-- The steps of a worker from its start to the end of its first poll. -/
def stepsOfPass : Nat := 3

/-- Lets every worker start, open its source and poll it once. -/
def pass (s : Session) (find : String → Except Fault Node) : Session :=
  s.links.foldl (fun s number =>
    (List.range stepsOfPass).foldl (fun s _ =>
      s.stepLink number (((s.path? number).map find).getD (.error .notFound))) s) s

/-! ## Printing -/

/-- Lets the main thread print all events that wait in the buffer. -/
def drain (s : Session) : Session :=
  (s.ring.waiting.foldl (fun s _ => s.turn .main) s).turn .main

/-- A round of the main thread. If nothing is left to wait for, the registry is closed and what has come
in meanwhile is printed. -/
def round (s : Session) : Session :=
  let s := (s.turn .main).drain.goMain
  match s.stage with
  | .closing _ => (s.turn .main).drain
  | _ => s

/-- Whether the main thread has ended. -/
def isOver (s : Session) : Bool := s.stage matches .ended

end Session

end LogIntake.CommandLine
