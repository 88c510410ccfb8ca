import LogIntake.File.Fault

/-!
# Sources of lines

* `SourceError`: why a source delivers no lines.
* `SourceError.ofFault`: which faults of a poll mean that the source is lost.
* `Batch`: the lines of one poll.
-/

namespace LogIntake

/-- Why a source delivers no lines. -/
inductive SourceError where
  /-- It could not be opened. -/
  | unreachable (reason : String)
  /-- It was open and is lost. -/
  | lost (reason : String)
  /-- This poll failed, and the next one may succeed. -/
  | transient (reason : String)
  /-- It was closed for good. -/
  | closed
deriving DecidableEq, Repr

/-- The wording of an error. -/
def SourceError.message : SourceError → String
  | .unreachable reason => "connection failed: " ++ reason
  | .lost reason => "disconnected: " ++ reason
  | .transient reason => "transient I/O error: " ++ reason
  | .closed => "stream closed"

/-- A fault while polling: the source is lost if it is gone or the connection to it broke. -/
def SourceError.ofFault (fault : Fault) : SourceError :=
  match fault.kind with
  | .notFound | .notConnected | .connectionReset | .connectionAborted | .brokenPipe =>
    .lost fault.text
  | _ => .transient fault.text

/-- The lines of one poll; `atEnd` says that no more will come. -/
structure Batch where
  lines : List String := []
  atEnd : Bool := false
deriving DecidableEq, Repr

end LogIntake
