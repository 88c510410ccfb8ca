import LogIntake.Net.Socket

/-!
# Sockets on a network

* `Network`: what a machine can do on its network.
* `Socket.openOn`: opens a socket, or tells which of the steps to it fails.
* `Traffic`: what arrives at a socket that is open.
* `Traffic.actions`: the steps of the reader that takes it in.
-/

namespace LogIntake

namespace IpAddress

/-- The address that stands for every interface, of the same kind as a given one. -/
def everyInterface : IpAddress → IpAddress
  | .v4 _ => .v4 (Vector.replicate 4 0)
  | .v6 _ => .v6 (Vector.replicate 8 0)

/-- Whether an address is that of a group of machines. -/
def isGroup : IpAddress → Bool
  | .v4 octets => octets.toList.head?.any fun first => 224 ≤ first && first < 240
  | .v6 segments => segments.toList.head?.any fun first => 0xff00 ≤ first

end IpAddress

/-- What a machine can do on its network. A step that fails has a reason. -/
structure Network where
  /-- A name stands for an address. -/
  resolves : String → Bool
  /-- Connects to a host at a port. -/
  connect : String → Nat → Except String Unit
  /-- Takes a port on the interfaces that an address stands for. -/
  bind : IpAddress → Nat → Except String Unit
  /-- Becomes a member of a group. -/
  join : IpAddress → Except String Unit

/-- Opens a socket. A host must have an address before a connection to it is made, and a port must be
free before a group is joined. -/
def Socket.openOn (network : Network) : Socket → Except SocketError Unit
  | .connect host port => do
    let address := host ++ ":" ++ portText port
    if !network.resolves host then throw (.unresolved address)
    (network.connect host port).mapError (.notConnected address)
  | .listen port | .datagrams port =>
    (network.bind (.v4 (Vector.replicate 4 0)) port).mapError
      (.notBound (LogIntake.everyInterface ++ ":" ++ portText port))
  | .multicast group port => do
    let every := group.everyInterface
    (network.bind every port).mapError (.notBound (every.text ++ ":" ++ portText port))
    (network.join group).mapError (.notJoined group.text)

/-- What arrives at an open socket. -/
inductive Traffic where
  /-- The peer sends segments and ends the connection. -/
  | peer (segments : List (List UInt8))
  /-- Clients connect one after the other, send segments and leave. -/
  | clients (connections : List (List (List UInt8)))
  | datagrams (messages : List (List UInt8))
deriving Repr

/-- The steps of the reader. Only a peer that was connected to can be lost. -/
def Traffic.actions : Traffic → List SocketSource.Action
  | .peer segments => (streamLines segments).map .push ++ [SocketSource.Action.lose peerGone]
  | .clients connections =>
    connections.flatMap fun segments => (streamLines segments).map .push
  | .datagrams messages => messages.flatMap fun message => (datagramLines message).map .push

end LogIntake
