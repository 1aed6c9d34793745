/-
Module: Netplay.Relay.Turn
Purpose: What one session does when it is its turn: datagrams come in,
  requests are carried out, events are shown, and the session ends.
Main exports:
  Relay.carryOut, Relay.dispatch, Relay.takeIn, Relay.receive, Relay.expire,
  Relay.showEvents, Relay.tearDown, Relay.turn
-/
import Netplay.Relay.Basic

namespace Netplay.Relay

/-- Carry out a request in the session on a port, under the next ticket. -/
def carryOut (relay : Relay) (port : Port) (request : Request) :
    Relay × Outcome :=
  match relay.sessionOn? port with
  | none => (relay, .finished (.ok ()))
  | some session =>
      let done := session.perform relay.lobby relay.now relay.nextTicket request
      let after :=
        { relay with lobby := done.lobby, nextTicket := relay.nextTicket + 1 }
      (((after.modify port fun _ => done.session).emit done.packets).post
          done.letters,
        done.outcome)

/-- A gap before a message counts against the user of the session. -/
def noteGap (relay : Relay) (port : Port) : Relay :=
  match relay.sessionOn? port with
  | none => relay
  | some session =>
      let (lobby, letters) := relay.lobby.droppedPacket session.user
      { relay with lobby := lobby }.post letters

/-- Act on the messages of a datagram in order.  One that makes no sense or is
refused does not keep the next ones from being acted on.  A request that waits
holds up the rest, and a rejected login ends the session. -/
def dispatch (port : Port) : List Accepted → Relay → Relay
  | [], relay => relay.modify port fun s => { s with phase := .listening }
  | accepted :: rest, relay =>
      let noted := if accepted.gap then relay.noteGap port else relay
      match Request.decode? accepted.message.code accepted.message.body with
      | some (.ok request) =>
          match noted.carryOut port request with
          | (after, .waiting) =>
              after.modify port fun s =>
                { s with phase := .waiting noted.nextTicket rest }
          | (after, .finished (.ok ())) => dispatch port rest after
          | (after, .finished (.error error)) =>
              if error.isFatal then
                after.modify port fun s =>
                  { s with phase := .listening, stopped := true }
              else dispatch port rest after
      | _ => dispatch port rest noted

/-- Take in one datagram.  One from another host is ignored.  Any other one is
a sign of life and, if it is the first, shows where the client is. -/
def takeIn (relay : Relay) (port : Port) (source : Address) (datagram : Bytes) :
    Relay :=
  match relay.sessionOn? port with
  | none => relay
  | some session =>
      if source.host ≠ session.host then relay
      else
        let (inbox, arrival) :=
          session.inbox.receive
            (datagram.take relay.settings.session.bufferSize)
        let heard :=
          { session with
            lastReceived := relay.now
            remote := session.remote.or (some source)
            inbox := inbox }
        match arrival with
        | .rejected _ => relay.modify port fun _ => heard
        | .retransmitRequest retry =>
            let (resent, packets) :=
              heard.resend relay.settings.server.maxPing.toNat relay.now
                retry.toNat
            (relay.modify port fun _ => resent).emit packets
        | .messages accepted =>
            dispatch port accepted (relay.modify port fun _ => heard)

/-- Take in up to `count` datagrams that have arrived, as long as the session
listens. -/
def receive (port : Port) : Nat → Relay → Relay
  | 0, relay => relay
  | count + 1, relay =>
      match relay.sessionOn? port with
      | none => relay
      | some session =>
          match session.arrivals with
          | [] => relay
          | (source, datagram) :: rest =>
              if session.isListening then
                receive port count
                  ((relay.modify port fun s => { s with arrivals := rest }).takeIn
                    port source datagram)
              else relay

/-- When a session that hears nothing more ends. -/
def keepaliveDeadline (relay : Relay) (session : Session) : Nat :=
  session.lastReceived + relay.settings.server.keepaliveMillis

/-- Whether a session has heard nothing for too long. -/
def isSilent (relay : Relay) (session : Session) : Bool :=
  session.isListening && relay.keepaliveDeadline session ≤ relay.now

/-- End the session on a port if it has heard nothing for too long. -/
def expire (relay : Relay) (port : Port) : Relay :=
  match relay.sessionOn? port with
  | none => relay
  | some session =>
      if relay.isSilent session then
        (relay.quit session.user "timeout").modify port fun s =>
          { s with stopped := true }
      else relay

/-- Show the events that wait in a session, unless it is to end. -/
def showEvents (relay : Relay) (port : Port) : Relay :=
  match relay.sessionOn? port with
  | none => relay
  | some session =>
      let (shown, packets) := session.renderAll relay.lobby relay.now
      (relay.modify port fun _ => shown).emit packets

/-- Forget the session on a port once both its halves have ended.  Its user
leaves, and the port is free again. -/
def tearDown (relay : Relay) (port : Port) : Relay :=
  match relay.sessionOn? port with
  | none => relay
  | some session =>
      if session.isOver then
        let left :=
          { relay with sessions := relay.sessions.filter (·.port ≠ port) }.quit
            session.user "connection closed"
        { left with ports := left.ports.release port }
      else relay

/-- The turn of the session on a port: all that has arrived is taken in before
any event is shown. -/
def turn (relay : Relay) (port : Port) : Relay :=
  let waiting := ((relay.sessionOn? port).map (·.arrivals.length)).getD 0
  (((receive port waiting relay).expire port).showEvents port).tearDown port

end Netplay.Relay
