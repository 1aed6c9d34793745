/-
Module: Netplay.Lan
Purpose: A relay together with the clients that talk to it, and the network
  between them.
Main exports:
  LinkFault, Client, Lan, Lan.opened, Lan.transmit, Lan.transmitToSession,
  Received, Lan.ended, Lan.collect
-/
import Netplay.Relay.Run

namespace Netplay

/-- Why a datagram cannot be sent. -/
inductive LinkFault where
  /-- There is no way to the relay. -/
  | unreachable
deriving Repr, Inhabited, DecidableEq

/-- A client and the port of its session, once the relay has told it. -/
structure Client where
  address : Address
  sessionPort : Option Port
deriving Repr, Inhabited, DecidableEq

/-- A datagram that a client has received. -/
structure Received where
  /-- The place of the client in the list of clients. -/
  client : Nat
  source : Port
  data : Bytes
deriving Repr, Inhabited, DecidableEq

/-- A relay and its clients. -/
structure Lan where
  /-- Whether datagrams of clients can reach the relay. -/
  attached : Bool
  clients : List Client
  relay : Relay

namespace Lan

/-- The address of a client on a host. -/
def addressOf (host index : Nat) : Address :=
  ⟨toString host, UInt16.ofNat (40000 + index)⟩

/-- A relay that has just started and clients on the hosts with these
numbers, each with a port of its own. -/
def opened (attached : Bool) (settings : Settings) (hosts : List Nat) : Lan :=
  { attached := attached
    clients := hosts.zipIdx.map fun (host, index) => ⟨addressOf host index, none⟩
    relay := Relay.opened settings }

/-- A client sends a datagram to a port of the relay. -/
def transmit (lan : Lan) (client : Nat) (port : Port) (datagram : Bytes) :
    Except LinkFault Lan :=
  match lan.clients[client]? with
  | none => .ok lan
  | some sender =>
      if lan.attached then
        .ok { lan with relay := lan.relay.deliver sender.address port datagram }
      else .error .unreachable

/-- A client sends a datagram to the port of the session that `owner` was
told; none is sent if `owner` was told none. -/
def transmitToSession (lan : Lan) (client owner : Nat) (datagram : Bytes) :
    Except LinkFault Lan :=
  match lan.clients[owner]?.bind (·.sessionPort) with
  | none => .ok lan
  | some port => lan.transmit client port datagram

/-- The client that a packet is sent to. -/
def recipient? (lan : Lan) (packet : Packet) : Option Received :=
  (lan.clients.findIdx? (·.address = packet.target)).map fun client =>
    ⟨client, packet.source, packet.data⟩

/-- A client that is granted a session learns its port. -/
def learn (connectPort : Port) (clients : List Client) (received : Received) :
    List Client :=
  if received.source = connectPort then
    match Greeting.parse received.data with
    | .ok (.granted port) =>
        clients.modify received.client fun client =>
          { client with sessionPort := some port }
    | _ => clients
  else clients

/-- The ports of the sessions that were live earlier and have come to their end
since. -/
def ended (earlier later : Lan) : List Port :=
  ((earlier.relay.sessions.filter (!·.stopped)).filter fun session =>
    !later.relay.sessions.any fun other =>
      other.port = session.port && !other.stopped).map (·.port)

/-- The clients receive what the relay has sent, except from the ports in
`silenced`: the datagrams by client, then by the port they come from, then in
the order they were sent. -/
def collect (lan : Lan) (silenced : List Port) : Lan × List Received :=
  let (relay, packets) := lan.relay.takeOutgoing
  let received :=
    (packets.filter fun packet => !silenced.contains packet.source).filterMap
      lan.recipient?
  let clients :=
    received.foldl (learn lan.relay.settings.connect.port) lan.clients
  ({ lan with relay := relay, clients := clients },
    received.mergeSort fun a b =>
      a.client < b.client || (a.client == b.client && a.source ≤ b.source))

end Lan

end Netplay
