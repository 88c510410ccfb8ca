import LogIntake.File.Tail
import LogIntake.Net.Address
import LogIntake.Text.Lines

/-!
# Sources of lines on the network

* `Socket`: how lines come over the network, with the text it is shown as.
* `SocketError`: why a socket cannot be opened.
* `StreamReader`: reads the lines of a connection, whose bytes come in segments.
* `streamLines`, `datagramLines`: the lines of a whole connection, and of one datagram.
* `SocketSource`: the lines that have come in and wait for a poll, and the loss of the peer.
* `SocketSource.step`: the reader and the poll, each step of which locks one thing.
-/

namespace LogIntake

/-- How lines come over the network. -/
inductive Socket where
  /-- From a peer to which a connection is made. -/
  | connect (host : String) (port : Nat)
  /-- From peers that make connections. -/
  | listen (port : Nat)
  /-- In datagrams. -/
  | datagrams (port : Nat)
  /-- In datagrams to a group. -/
  | multicast (group : IpAddress) (port : Nat)
deriving DecidableEq, Repr

/-- The decimal digits of a port. -/
def portText (port : Nat) : String := String.ofList (Nat.toDigits 10 port)

/-- The address of every interface of a machine. -/
def everyInterface : String := "0.0.0.0"

/-- The text of a socket. -/
def Socket.text : Socket → String
  | .connect host port => "tcp://" ++ host ++ ":" ++ portText port
  | .listen port => "tcp-listen://" ++ everyInterface ++ ":" ++ portText port
  | .datagrams port => "udp://" ++ everyInterface ++ ":" ++ portText port
  | .multicast group port => "multicast://" ++ group.text ++ ":" ++ portText port

/-- Why a socket cannot be opened. -/
inductive SocketError where
  | unresolved (address : String)
  | notBound (address reason : String)
  | notConnected (address reason : String)
  | notJoined (group reason : String)
deriving DecidableEq, Repr

/-- The wording of a refusal. -/
def SocketError.message : SocketError → String
  | .unresolved address => "cannot resolve " ++ address
  | .notBound address reason => "cannot bind " ++ address ++ ": " ++ reason
  | .notConnected address reason => "cannot connect to " ++ address ++ ": " ++ reason
  | .notJoined group reason => "cannot join multicast group " ++ group ++ ": " ++ reason

/-- A socket that cannot be opened cannot be reached. -/
def SocketError.sourceError (e : SocketError) : SourceError := .unreachable e.message

/-! ## Lines of bytes -/

/-- A line without the carriage returns at its end. A line of nothing else is none. -/
def bareLine? (line : List Char) : Option String :=
  let bare := (line.reverse.dropWhile (· == '\r')).reverse
  if bare.isEmpty then none else some (String.ofList bare)

/-- Reads the lines of a connection, whose bytes come in segments. -/
structure StreamReader where
  /-- The bytes of the line that has not ended, the last one first. -/
  pending : List UInt8 := []
  /-- A line was no text, so nothing more is read. -/
  broken : Bool := false
deriving DecidableEq, Repr

namespace StreamReader

/-- Ends the pending line, with the line if it holds anything. -/
def endLine (reader : StreamReader) : List String × StreamReader :=
  match Text.Utf8.decode? reader.pending.reverse with
  | some line => ((bareLine? line).toList, {})
  | none => ([], { broken := true })

/-- Takes a byte. -/
def takeByte (reader : StreamReader) (byte : UInt8) : List String × StreamReader :=
  if reader.broken then ([], reader)
  else if byte = lineFeed then reader.endLine
  else ([], { reader with pending := byte :: reader.pending })

/-- Takes a segment. -/
def takeSegment (reader : StreamReader) : List UInt8 → List String × StreamReader
  | [] => ([], reader)
  | byte :: rest =>
    let (lines, reader) := reader.takeByte byte
    let (later, reader) := takeSegment reader rest
    (lines ++ later, reader)

/-- The lines of the segments of a connection up to its end. A last line needs no line feed. -/
def readAll (reader : StreamReader) : List (List UInt8) → List String
  | [] => if reader.broken then [] else reader.endLine.1
  | segment :: rest =>
    let (lines, reader) := reader.takeSegment segment
    lines ++ readAll reader rest

end StreamReader

/-- The lines of a connection whose bytes come in given segments. -/
def streamLines (segments : List (List UInt8)) : List String :=
  StreamReader.readAll {} segments

/-- The lines that a datagram holds. Bytes that are no text are replaced. -/
def datagramLines (bytes : List UInt8) : List String :=
  (Text.lines (Text.Utf8.decodeLossy bytes)).filterMap bareLine?

/-! ## Reader and poll -/

/-- The reason that is recorded when a peer ends its connection. -/
def peerGone : String := "connection closed by peer"

/-- What a reader and the polls of a source share. -/
structure SocketSource where
  isOpen : Bool := false
  /-- The lines that wait for a poll. -/
  buffer : List String := []
  /-- Why the peer was lost, until a poll tells it. -/
  lost : Option String := none
  /-- A poll has found no line and has not yet asked for the loss. -/
  emptyHanded : Bool := false
  /-- The answers of the polls so far. -/
  answers : List (Except SourceError Batch) := []
deriving Repr

namespace SocketSource

/-- A step of the reader or of a poll. -/
inductive Action where
  /-- The reader appends a line. -/
  | push (line : String)
  /-- The reader records the loss of its peer. -/
  | lose (reason : String)
  /-- A poll takes the lines that wait. -/
  | drain
  /-- A poll that found no line takes the loss. -/
  | takeLoss
deriving DecidableEq, Repr

/-- The source once it is open. Lines that still wait stay; an earlier loss is forgotten. -/
def opened (source : SocketSource) : SocketSource :=
  { source with isOpen := true, lost := none }

/-- The source once it is closed. -/
def closed (source : SocketSource) : SocketSource :=
  { source with isOpen := false }

/-- Ends a poll with an answer. -/
def reply (source : SocketSource) (answer : Except SourceError Batch) : SocketSource :=
  { source with emptyHanded := false, answers := source.answers ++ [answer] }

/-- How a source goes on. A step that does not concern its state changes nothing. -/
def step (source : SocketSource) : Action → SocketSource
  | .push line => { source with buffer := source.buffer ++ [line] }
  | .lose reason => { source with lost := some reason }
  | .drain =>
    if source.emptyHanded then source
    else if !source.isOpen then source.reply (.error .closed)
    else if source.buffer.isEmpty then { source with emptyHanded := true }
    else { source with buffer := [] }.reply (.ok { lines := source.buffer })
  | .takeLoss =>
    if source.emptyHanded then
      { source with lost := none }.reply <|
        match source.lost with
        | some reason => .error (.lost reason)
        | none => .ok {}
    else source

/-- The source after a sequence of steps. -/
def run (source : SocketSource) (actions : List Action) : SocketSource :=
  actions.foldl step source

/-- The steps of a poll that nothing interrupts. -/
def poll (source : SocketSource) : SocketSource :=
  source.run [.drain, .takeLoss]

end SocketSource

end LogIntake
