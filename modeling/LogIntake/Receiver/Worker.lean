import LogIntake.Event.Filter
import LogIntake.Receiver.Source
import LogIntake.Receiver.StopSignal
import LogIntake.Record.Decoder

/-!
# Receiver workers

A worker opens a source, again and again until it succeeds, polls it, decodes its lines and pushes the
events that pass a filter. A lost source is closed and opened again; a stop request, a source closed for
good or the end of a single pass end the worker.

* `Phase`: what a worker is doing.
* `Input`: what can happen to a worker: an answer of the source, the end of a wait, a stop request.
* `Worker.step`: how a worker goes on, with the events it pushes and the calls it makes on its source.
-/

namespace LogIntake

/-- What a worker is told once. -/
structure ReceiverSettings where
  surroundings : Surroundings
  filter : Option TextFilter := none
  /-- The source is polled again and again, rather than once. -/
  tailing : Bool := true

/-- What a worker is doing. -/
inductive Phase where
  /-- It is about to open the source. -/
  | ready
  /-- It waits for the source to open. -/
  | opening
  /-- It waits for the lines of a poll. -/
  | polling
  /-- It waits before it opens the source again. -/
  | retrying
  /-- It waits before it polls again. -/
  | idle
  /-- It has ended. -/
  | done
deriving DecidableEq, Repr

/-- What can happen to a worker. -/
inductive Input where
  /-- The source answers the call to open it. -/
  | opened (result : Except SourceError Unit)
  /-- The source answers a poll. -/
  | polled (result : Except SourceError Batch)
  /-- A wait is over, or the worker is given time to go on. -/
  | tick
  /-- The owner asks the worker to stop. -/
  | stop
deriving Repr

/-- The calls of a worker on its source, and its last message to its owner. -/
inductive SourceCall where
  | openSource
  | pollSource
  | closeSource
  | exit
deriving DecidableEq, Repr

/-- A call, with what the owner of the worker can see as it begins. -/
structure Observation where
  call : SourceCall
  connected : Bool
  opened : Bool
  pushed : Nat
deriving DecidableEq, Repr

/-- A worker with its history. -/
structure Worker where
  decoder : Decoder
  phase : Phase := .ready
  /-- Closed once the owner has asked the worker to stop. -/
  signal : StopSignal := {}
  connected : Bool := false
  /-- The source has been open at least once. -/
  hasOpened : Bool := false
  /-- The events pushed so far. -/
  pushed : List Event := []
  /-- The calls made so far. -/
  trace : List Observation := []

namespace Worker

/-- Makes a call. -/
def call (w : Worker) (c : SourceCall) : Worker :=
  { w with trace := w.trace ++ [⟨c, w.connected, w.hasOpened, w.pushed.length⟩] }

/-- Pushes the events that pass the filter. -/
def push (settings : ReceiverSettings) (w : Worker) (events : List Event) : Worker :=
  { w with
    pushed :=
      w.pushed ++ TextFilter.select settings.filter settings.surroundings.almanac.zone events }

/-- Decodes the lines of a batch, and the pending record too if no line follows for now, and pushes
the events. -/
def takeBatch (settings : ReceiverSettings) (w : Worker) (batch : Batch) : Worker :=
  let (events, decoder) := w.decoder.decodeAll settings.surroundings batch.lines
  if batch.atEnd || batch.lines.isEmpty then
    let (last, decoder) := decoder.flush settings.surroundings
    { w with decoder }.push settings (events ++ last)
  else { w with decoder }.push settings events

/-- Ends the worker: the pending record is pushed, the source closed and the owner told. -/
def finish (settings : ReceiverSettings) (w : Worker) : Worker :=
  let (events, decoder) := w.decoder.flush settings.surroundings
  let w := { w with decoder }.push settings events
  let w := ({ w with connected := false }.call .closeSource).call .exit
  { w with phase := .done }

/-- Goes on to the next poll, or ends after a single pass. -/
def afterPoll (settings : ReceiverSettings) (w : Worker) : Worker :=
  if settings.tailing then { w with phase := .idle } else w.finish settings

/-- The source has opened. -/
def onOpened (settings : ReceiverSettings) (w : Worker) : Except SourceError Unit → Worker
  | .ok () => { w with connected := true, hasOpened := true, phase := .polling }.call .pollSource
  | .error .closed => w.finish settings
  | .error _ => { w with phase := .retrying }

/-- The source has answered a poll. -/
def onPolled (settings : ReceiverSettings) (w : Worker) : Except SourceError Batch → Worker
  | .ok batch => (w.takeBatch settings batch).afterPoll settings
  | .error .closed => w.finish settings
  | .error (.transient _) => w.afterPoll settings
  | .error (.lost _) | .error (.unreachable _) =>
    { { w with connected := false }.call .closeSource with phase := .retrying }

/-- A wait is over. A stop request is seen now at the latest. -/
def onTick (settings : ReceiverSettings) (w : Worker) : Worker :=
  match w.phase with
  | .ready =>
    if w.signal.closed then w.finish settings else { w with phase := .opening }.call .openSource
  | .retrying => if w.signal.wait then w.finish settings else { w with phase := .ready }
  | .idle =>
    if w.signal.wait then w.finish settings else { w with phase := .polling }.call .pollSource
  | .opening | .polling | .done => w

/-- How a worker goes on. What does not concern its phase changes nothing. -/
def step (settings : ReceiverSettings) (w : Worker) : Input → Worker
  | .opened result => if w.phase = .opening then w.onOpened settings result else w
  | .polled result => if w.phase = .polling then w.onPolled settings result else w
  | .tick => w.onTick settings
  | .stop => { w with signal := w.signal.close }

/-- The worker after a sequence of inputs. -/
def run (settings : ReceiverSettings) (w : Worker) (inputs : List Input) : Worker :=
  inputs.foldl (step settings) w

end Worker

end LogIntake
