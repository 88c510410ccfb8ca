/-!
# Sinks

* `RingSink`: a bounded buffer, which drops new entries while it is full and counts them.
* `ChannelSink`: a queue whose reader may go away.
* `ListSink`: all entries, in the order in which they came.
-/

namespace LogIntake

variable {α : Type}

/-- A buffer for at most `capacity` entries, and for one where the capacity is zero. -/
structure RingSink (α : Type) where
  capacity : Nat
  waiting : List α := []
  dropped : Nat := 0
deriving Repr

namespace RingSink

/-- How many entries can wait. -/
def room (sink : RingSink α) : Nat :=
  max 1 sink.capacity

/-- Takes an entry, or drops it while the buffer is full. -/
def push (sink : RingSink α) (entry : α) : RingSink α :=
  if sink.waiting.length < sink.room then { sink with waiting := sink.waiting ++ [entry] }
  else { sink with dropped := sink.dropped + 1 }

/-- Hands out the entry that has waited longest. -/
def pop (sink : RingSink α) : Option α × RingSink α :=
  match sink.waiting with
  | [] => (none, sink)
  | entry :: rest => (some entry, { sink with waiting := rest })

end RingSink

/-- A queue; `closed` says that its reader has gone away. -/
structure ChannelSink (α : Type) where
  waiting : List α := []
  closed : Bool := false
deriving Repr

namespace ChannelSink

/-- Takes an entry, as long as there is a reader. -/
def push (sink : ChannelSink α) (entry : α) : ChannelSink α :=
  if sink.closed then sink else { sink with waiting := sink.waiting ++ [entry] }

/-- Hands out the entry that has waited longest. -/
def pop (sink : ChannelSink α) : Option α × ChannelSink α :=
  match sink.waiting with
  | [] => (none, sink)
  | entry :: rest => (some entry, { sink with waiting := rest })

/-- The reader goes away, and what waits with it. -/
def close (_ : ChannelSink α) : ChannelSink α :=
  { waiting := [], closed := true }

end ChannelSink

/-- All entries that were pushed and not yet drained. -/
structure ListSink (α : Type) where
  entries : List α := []
deriving Repr

namespace ListSink

/-- Takes an entry. -/
def push (sink : ListSink α) (entry : α) : ListSink α :=
  ⟨sink.entries ++ [entry]⟩

/-- Hands out all entries. -/
def drain (sink : ListSink α) : List α × ListSink α :=
  (sink.entries, ⟨[]⟩)

end ListSink

end LogIntake
