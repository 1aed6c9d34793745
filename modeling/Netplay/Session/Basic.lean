/-
Module: Netplay.Session.Basic
Purpose: The session of one client: its port, its message numbers, its caches
  and what waits for it.
Main exports:
  Packet, Phase, Session, Session.begin, Session.send, Session.resend
-/
import Netplay.Event
import Netplay.PayloadCache
import Netplay.Session.SpeedTest
import Netplay.Wire.Inbox
import Netplay.Wire.Outbox

namespace Netplay

/-!
A session owns one port and serves one client host.  It does two things side
by side: it takes in datagrams, one at a time, and it shows the events told to
its user.  Only the first of them can be held up, by a request that waits for
the input of other players.
-/

/-- A datagram that leaves the relay. -/
structure Packet where
  source : Port
  target : Address
  data : Bytes
deriving Repr, Inhabited, DecidableEq

/-- What the receiving half of a session is doing. -/
inductive Phase where
  /-- It is ready for the next datagram. -/
  | listening
  /-- A request of the current datagram waits; these messages come after
  it. -/
  | waiting (ticket : Nat) (rest : List Accepted)
deriving Repr, Inhabited, DecidableEq

/-- The session of one client. -/
structure Session where
  user : UserId
  port : Port
  /-- The host whose datagrams are taken in. -/
  host : String
  /-- Where the client was first heard from; nothing is sent before that. -/
  remote : Option Address
  inbox : Inbox
  outbox : Outbox
  /-- When messages were last sent again. -/
  lastResend : Option Nat
  /-- Input the client has sent, by the slots it refers to. -/
  clientCache : PayloadCache
  /-- Input sent to the client, so that repeats travel as slots. -/
  serverCache : PayloadCache
  speed : SpeedTest
  /-- When the client was last heard. -/
  lastReceived : Nat
  /-- Datagrams not yet taken in, oldest first. -/
  arrivals : List (Address × Bytes)
  /-- Events not yet shown, oldest first. -/
  events : List Event
  phase : Phase
  /-- Whether the session is to end. -/
  stopped : Bool
deriving Repr, Inhabited, DecidableEq

namespace Session

/-- A session that begins now. -/
def begin (user : UserId) (port : Port) (host : String) (now : Nat) :
    Session :=
  { user := user
    port := port
    host := host
    remote := none
    inbox := Inbox.empty
    outbox := Outbox.empty
    lastResend := none
    clientCache := PayloadCache.empty
    serverCache := PayloadCache.empty
    speed := SpeedTest.start now
    lastReceived := now
    arrivals := []
    events := []
    phase := .listening
    stopped := false }

/-- Whether the session can take in a datagram. -/
def isListening (session : Session) : Bool :=
  !session.stopped && session.phase == .listening

/-- Whether both halves of the session have come to their end. -/
def isOver (session : Session) : Bool :=
  session.stopped && session.phase == .listening

/-- The datagram to the client; none while it is not known where that is. -/
def transmit (session : Session) (data : Bytes) : List Packet :=
  session.remote.toList.map fun target => ⟨session.port, target, data⟩

/-- Number a message and send it with the ones before it. -/
def send (session : Session) (command : Command) (body : Bytes) :
    Session × List Packet :=
  let (data, outbox) := session.outbox.send command.code body
  ({ session with outbox := outbox }, session.transmit data)

/-- Send recent messages again, for the `retry`-th time in a row.  Nothing
happens unless more than `distance` milliseconds have passed since the last
time, or when there is nothing to send. -/
def resend (session : Session) (distance now retry : Nat) :
    Session × List Packet :=
  if session.lastResend.any fun last => now - last ≤ distance then
    (session, [])
  else
    match session.outbox.resend retry with
    | none => (session, [])
    | some data =>
        ({ session with lastResend := some now }, session.transmit data)

/-- Forget all input that either side could refer to. -/
def clearCaches (session : Session) : Session :=
  { session with
    clientCache := PayloadCache.empty
    serverCache := PayloadCache.empty }

end Session

end Netplay
