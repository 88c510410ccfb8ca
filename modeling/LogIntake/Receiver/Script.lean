import LogIntake.Receiver.Worker

/-!
# Sources that follow a script

* `Reply`: an answer of a source, with a stop request that may arrive before it.
* `SourceScript`: the answers of a source in order.
* `SourceScript.play`: a worker with such a source, run to its end.
-/

namespace LogIntake

/-- An answer of a source; `stop` says that the owner of the worker asks it to stop meanwhile. -/
structure Reply (α : Type) where
  result : Except SourceError α
  stop : Bool := false

/-- The answers of a source, and those that it gives once they are used up. -/
structure SourceScript where
  opens : List (Reply Unit) := []
  polls : List (Reply Batch) := []
  afterOpens : Except SourceError Unit := .ok ()
  afterPolls : Except SourceError Batch := .error .closed

namespace SourceScript

/-- The inputs that an answer stands for. -/
def inputsOf (stop : Bool) (answer : Input) : List Input :=
  if stop then [.stop, answer] else [answer]

/-- What happens next to a worker, and the rest of the script. -/
def next (phase : Phase) (script : SourceScript) : List Input × SourceScript :=
  match phase with
  | .opening =>
    match script.opens with
    | [] => ([.opened script.afterOpens], script)
    | reply :: rest => (inputsOf reply.stop (.opened reply.result), { script with opens := rest })
  | .polling =>
    match script.polls with
    | [] => ([.polled script.afterPolls], script)
    | reply :: rest => (inputsOf reply.stop (.polled reply.result), { script with polls := rest })
  | _ => ([.tick], script)

/-- The worker after a number of rounds. -/
def playFor (settings : ReceiverSettings) : Nat → SourceScript → Worker → Worker
  | 0, _, w => w
  | rounds + 1, script, w =>
    if w.phase = .done then w
    else
      let (inputs, script) := script.next w.phase
      playFor settings rounds script (w.run settings inputs)

/-- The worker at its end. An answer takes four rounds at most: the wait before it, the start, the
call, and the loss that follows. -/
def play (settings : ReceiverSettings) (script : SourceScript) (w : Worker) : Worker :=
  playFor settings (4 * (script.opens.length + script.polls.length) + 8) script w

end SourceScript

end LogIntake
