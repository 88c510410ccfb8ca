import LogIntake.Event.Sink

/-!
# A ring sink that receivers share

Each receiver pushes from a thread of its own. A lock lets in one push after the other; the consumer takes
entries out without it, also in the middle of a push.

* `RingSink.offer?`, `RingSink.countDrop`: the two parts of a push.
* `SharedRing`: the sink, the push that has the lock, and what the consumer has taken out.
* `SharedRing.step`: a receiver or the consumer goes on, as one of them is free to at any time.
-/

namespace LogIntake

variable {α : Type}

namespace RingSink

/-- Takes an entry, unless the buffer is full. -/
def offer? (sink : RingSink α) (entry : α) : Option (RingSink α) :=
  if sink.waiting.length < sink.room then some { sink with waiting := sink.waiting ++ [entry] }
  else none

/-- Counts an entry that the buffer has not taken. -/
def countDrop (sink : RingSink α) : RingSink α :=
  { sink with dropped := sink.dropped + 1 }

/-- A push counts its entry if the buffer does not take it. -/
theorem push_eq (sink : RingSink α) (entry : α) :
    sink.push entry = (sink.offer? entry).getD sink.countDrop := by
  unfold push offer?
  split <;> rfl

end RingSink

/-- How far a push has come. -/
inductive PushStage where
  /-- It has got the lock. -/
  | begun
  /-- The buffer was full; the drop is still to be counted. -/
  | refused
  /-- The entry waits or has been counted; the lock is still to be given back. -/
  | settled
deriving DecidableEq, Repr

/-- A push of a receiver. -/
structure Push (α : Type) where
  receiver : Nat
  entry : α
  stage : PushStage := .begun
deriving Repr

/-- A ring sink that receivers share. -/
structure SharedRing (α : Type) where
  ring : RingSink α
  /-- The push that has the lock. -/
  current : Option (Push α) := none
  /-- What the consumer has taken out, in that order. -/
  popped : List α := []
deriving Repr

namespace SharedRing

/-- Whose turn it is. -/
inductive Turn (α : Type) where
  /-- A receiver that wants to push an entry tries to get the lock. -/
  | lock (receiver : Nat) (entry : α)
  /-- A receiver goes on with its push. -/
  | advance (receiver : Nat)
  /-- The consumer asks for an entry. -/
  | pop
deriving DecidableEq, Repr

/-- A sink to which nothing has happened yet. -/
def start (capacity : Nat) : SharedRing α :=
  { ring := { capacity } }

/-- The push that has the lock goes on. -/
def goOn (s : SharedRing α) (push : Push α) : SharedRing α :=
  match push.stage with
  | .begun =>
    match s.ring.offer? push.entry with
    | some ring => { s with ring, current := some { push with stage := .settled } }
    | none => { s with current := some { push with stage := .refused } }
  | .refused =>
    { s with ring := s.ring.countDrop, current := some { push with stage := .settled } }
  | .settled => { s with current := none }

/-- What a turn does. A receiver that has to wait for the lock, or has no push to go on with, changes
nothing. -/
def step (s : SharedRing α) : Turn α → SharedRing α
  | .lock receiver entry =>
    if s.current.isNone then { s with current := some { receiver, entry } } else s
  | .advance receiver =>
    match s.current with
    | some push => if push.receiver = receiver then s.goOn push else s
    | none => s
  | .pop => { s with ring := s.ring.pop.2, popped := s.popped ++ s.ring.pop.1.toList }

/-- The sink after turns. -/
def run (s : SharedRing α) (turns : List (Turn α)) : SharedRing α :=
  turns.foldl step s

/-- The turns of a push that nobody interrupts. The last one is idle if the buffer takes the entry. -/
def pushTurns (receiver : Nat) (entry : α) : List (Turn α) :=
  [.lock receiver entry, .advance receiver, .advance receiver, .advance receiver]

/-- Without interruption a push does what `RingSink.push` does. -/
theorem run_pushTurns {s : SharedRing α} (h : s.current = none) (receiver : Nat) (entry : α) :
    s.run (pushTurns receiver entry) = { s with ring := s.ring.push entry } := by
  rw [RingSink.push_eq]
  cases hoffer : s.ring.offer? entry <;>
    simp [run, pushTurns, step, goOn, h, hoffer]

end SharedRing

end LogIntake
