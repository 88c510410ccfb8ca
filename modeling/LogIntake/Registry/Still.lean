import LogIntake.Net.Network
import LogIntake.Registry.Rehearsal

/-!
# The usual sources in a still world

* `stillScript`: how a source answers while no file changes and nothing comes over the network.
-/

namespace LogIntake

/-- The answers of a source that can never be opened. -/
def neverOpens (e : SourceError) : SourceScript :=
  { afterOpens := .error e, afterPolls := .ok {} }

/-- The answers of a source that opens, and to which nothing comes. -/
def staysSilent : SourceScript := { afterPolls := .ok {} }

/-- How the source of a receiver answers while no file changes and nothing comes over the network. A
file is read by the first poll; a socket opens if the network lets it. -/
def stillScript (network : Network) (find : String → Except Fault Node) (name : String)
    (kind : ReceiverKind) (connection : Connection) : SourceScript :=
  match kind.socket? with
  | some socket =>
    match socket.openOn network with
    | .ok () => staysSilent
    | .error e => neverOpens e.sourceError
  | none =>
    match TailSource.new name connection with
    | .error e => neverOpens (.unreachable e.message)
    | .ok source =>
      match source.openFile ((FileSystems.mk []).register "file" (localFileSystem find)) with
      | .error e => neverOpens e
      | .ok source =>
        { staysSilent with polls := [{ result := (source.poll (.ofNode ∘ find)).map (·.1) }] }

end LogIntake
