/-!
# Stop signals

* `StopSignal`: a flag that is set once and ends every wait.
* `StopSignal.close`, `StopSignal.wait`: what the owner of a worker does with it, and what the worker does.
-/

namespace LogIntake

/-- A flag that ends every wait once it is set. -/
structure StopSignal where
  closed : Bool := false
deriving DecidableEq, Repr

namespace StopSignal

/-- Sets the flag. -/
def close (_ : StopSignal) : StopSignal := ⟨true⟩

/-- Whether a wait is cut short, rather than lasting its full time. -/
def wait (signal : StopSignal) : Bool := signal.closed

variable {signal : StopSignal}

/-! ## Small facts -/

@[simp] theorem closed_close : signal.close.closed = true := rfl

/-- A wait is cut short as soon as the flag is set, also if it was set before. -/
@[simp] theorem wait_eq : signal.wait = signal.closed := rfl

end StopSignal

end LogIntake
