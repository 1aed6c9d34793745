/-
Module: Netplay.Relay.Run
Purpose: The relay as a whole: everything that can proceed does, and time
  passes.
Main exports:
  Relay.step?, Relay.settle, Relay.nextDeadline?, Relay.advance,
  Relay.deliver, Relay.HandedIn, Relay.handIn, Relay.stop, Relay.occupy,
  Relay.vacate, Relay.impair, Relay.repair
-/
import Netplay.Relay.Greet
import Netplay.Relay.Turn

namespace Netplay.Relay

/-- Whether there is anything for a session to do. -/
def hasWork (relay : Relay) (session : Session) : Bool :=
  session.isOver ||
    (session.isListening && !session.arrivals.isEmpty) ||
    (!session.stopped && !session.events.isEmpty) ||
    relay.isSilent session

/-- A request that waited is over.  The session it held up goes on with the
rest of the datagram; one that was handed in is reported. -/
def conclude (relay : Relay) (finished : Finished) : Relay :=
  match relay.directs.find? (·.ticket = finished.ticket) with
  | some direct =>
      { relay with
        directs := relay.directs.filter (·.ticket ≠ finished.ticket)
        reports :=
          relay.reports ++
            [⟨direct.label, finished.result.mapError ActionError.refused⟩] }
  | none =>
      let held? := relay.sessions.findSome? fun session =>
        match session.phase with
        | .waiting ticket rest =>
            if ticket = finished.ticket then some (session.port, rest) else none
        | .listening => none
      match held? with
      | none => relay
      | some (port, rest) => (dispatch port rest relay).turn port

/-- The next thing that can proceed at this instant: a merge, or else the
first session with something to do. -/
def step? (relay : Relay) : Option Relay :=
  match relay.lobby.turn relay.now with
  | some (lobby, letters, finished) =>
      let after := { relay with lobby := lobby }.post letters
      match finished with
      | none => some after
      | some finished => some (after.conclude finished)
  | none =>
      (relay.sessions.find? relay.hasWork).map fun session =>
        relay.turn session.port

/-- Let things proceed, at most `steps` of them. -/
def run : Nat → Relay → Relay
  | 0, relay => relay
  | steps + 1, relay =>
      match relay.step? with
      | none => relay
      | some after => run steps after

/-- The messages that sessions have yet to act on, where a datagram not yet
read counts as many as one can hold. -/
def backlog (relay : Relay) : Nat :=
  relay.sessions.foldr
    (fun session others =>
      let acting :=
        match session.phase with
        | .waiting _ rest => rest.length + 1
        | .listening => 0
      session.arrivals.length * Bundle.maxMessages + acting + others)
    0

/-- More steps than can be taken at one instant.  Each message acted on begins
at most one merge, which ends after so many time-outs and changes of queues;
every step tells something to each session at most; and each session ends
once. -/
def patience (relay : Relay) : Nat :=
  let queues :=
    (relay.lobby.allGames.flatMap (·.allQueues)).length + 256
  let merges := relay.backlog + relay.directs.length + relay.lobby.inFlight
  let effects :=
    (merges + 1) *
        (relay.settings.game.desynchTimeouts + 2 * queues + 4) +
      3 * relay.sessions.length
  effects * (relay.sessions.length + 2)

/-- Let everything proceed as far as it can at this instant. -/
def settle (relay : Relay) : Relay := run relay.patience relay

/-- The next instant at which something falls due. -/
def nextDeadline? (relay : Relay) : Option Nat :=
  (relay.lobby.nextDeadline?.toList ++
    (relay.sessions.filter (·.isListening)).map relay.keepaliveDeadline).min?

/-- Let time pass until `target`, stopping at most `stops` times on the way
where something falls due. -/
def passTime (target : Nat) : Nat → Relay → Relay
  | 0, relay => { relay with now := target }
  | stops + 1, relay =>
      match relay.nextDeadline? with
      | none => { relay with now := target }
      | some deadline =>
          if target < deadline then { relay with now := target }
          else
            passTime target stops
              { relay with now := max relay.now deadline }.settle

/-- Let time pass. -/
def advance (relay : Relay) (milliseconds : Nat) : Relay :=
  passTime (relay.now + milliseconds) (milliseconds + 1) relay

/-- A datagram reaches a port.  On the well-known port it is a greeting, on
that of a session it waits for its turn, and elsewhere it is lost. -/
def deliver (relay : Relay) (source : Address) (port : Port) (datagram : Bytes) :
    Relay :=
  if port = relay.settings.connect.port then (relay.greet source datagram).settle
  else
    match relay.sessionOn? port with
    | none => relay
    | some _ =>
        ((relay.modify port fun s =>
          { s with arrivals := s.arrivals ++ [(source, datagram)] }).turn
            port).settle

/-- What becomes at once of a request handed in. -/
inductive HandedIn where
  /-- No action answers the type of the message. -/
  | noAction
  /-- The user has no session. -/
  | noSession
  /-- It is begun; what comes of it will be reported. -/
  | begun
deriving Repr, Inhabited, DecidableEq

/-- Report a request that was handed in. -/
def report (relay : Relay) (label : Nat) (result : Except ActionError Unit) :
    Relay :=
  { relay with reports := relay.reports ++ [⟨label, result⟩] }

/-- Carry out a message in the session of a user beside its datagrams.  Its
error is reported under the label and does not end the session. -/
def handIn (relay : Relay) (label : Nat) (user : UserId) (code : UInt8)
    (body : Bytes) : Relay × HandedIn :=
  match Request.decode? code body with
  | none => (relay, .noAction)
  | some decoded =>
      match relay.sessionOf? user with
      | none => (relay, .noSession)
      | some session =>
          match decoded with
          | .error error =>
              ((relay.report label (.error (.format error))).settle, .begun)
          | .ok request =>
              match relay.carryOut session.port request with
              | (after, .finished result) =>
                  ((after.report label result).settle, .begun)
              | (after, .waiting) =>
                  let direct : Direct := ⟨relay.nextTicket, label, session.port⟩
                  let held : Relay :=
                    { after with directs := after.directs ++ [direct] }
                  (held.settle, .begun)

/-- Make every session end. -/
def stop (relay : Relay) : Relay :=
  let stopping : Relay :=
    { relay with
      sessions := relay.sessions.map fun session => { session with stopped := true } }
  stopping.settle

/-- Another program takes a port, if it is free to be taken. -/
def occupy (relay : Relay) (port : Port) : Relay :=
  if relay.isBound port then relay
  else { relay with foreign := relay.foreign ++ [port] }

/-- Another program gives a port back; whether it held it. -/
def vacate (relay : Relay) (port : Port) : Relay × Bool :=
  ({ relay with foreign := relay.foreign.filter (· ≠ port) },
    relay.foreign.contains port)

/-- From now on no session can be started on a port. -/
def impair (relay : Relay) (port : Port) : Relay :=
  { relay with faulty := port :: relay.faulty }

/-- Sessions can be started on a port again. -/
def repair (relay : Relay) (port : Port) : Relay :=
  { relay with faulty := relay.faulty.filter (· ≠ port) }

end Netplay.Relay
