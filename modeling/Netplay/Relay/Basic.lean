/-
Module: Netplay.Relay.Basic
Purpose: The relay: users and games, the sessions of its clients and the ports
  they use.
Main exports:
  Tally, Direct, Report, Relay, Relay.opened, Relay.post, Relay.sessionOf?,
  Relay.sessionOn?, Relay.isBound
-/
import Netplay.Lobby.Clock
import Netplay.Session.Perform
import Netplay.Session.Render

namespace Netplay

/-!
A relay answers greetings on its well-known port and gives each client it
grants a session a port of its own.  It is kept as one value together with the
time and with what it has sent and not yet been relieved of, so that
everything a relay does is a function from relays to relays.
-/

/-- What became of the greetings so far. -/
structure Tally where
  requests : Nat := 0
  pings : Nat := 0
  formatErrors : Nat := 0
  protocolErrors : Nat := 0
  deniedFull : Nat := 0
  deniedOther : Nat := 0
  connects : Nat := 0
deriving Repr, Inhabited, DecidableEq

/-- A request that was handed in beside the datagrams of a session and waits.
It keeps the port of the session in use. -/
structure Direct where
  ticket : Nat
  label : Nat
  port : Port
deriving Repr, Inhabited, DecidableEq

/-- What came of a request that was handed in. -/
structure Report where
  label : Nat
  result : Except ActionError Unit

/-- A relay at one instant. -/
structure Relay where
  settings : Settings
  /-- Milliseconds since the start. -/
  now : Nat
  lobby : Lobby
  ports : PortPool
  /-- Live sessions in the order they began. -/
  sessions : List Session
  tally : Tally
  /-- Ports in use by other programs. -/
  foreign : List Port
  /-- Ports that can be taken, but on which no session can be started. -/
  faulty : List Port
  directs : List Direct
  nextTicket : Nat
  /-- Datagrams sent and not yet taken away, oldest first. -/
  outgoing : List Packet
  /-- Reports not yet taken away, oldest first. -/
  reports : List Report

namespace Relay

/-- A relay that has just started. -/
def opened (settings : Settings) : Relay :=
  { settings := settings
    now := 0
    lobby := Lobby.empty settings
    ports := PortPool.range settings.session.firstPort settings.portPoolSize
    sessions := []
    tally := {}
    foreign := []
    faulty := []
    directs := []
    nextTicket := 0
    outgoing := []
    reports := [] }

/-- Whether sessions may speak a protocol. -/
def supports (relay : Relay) (protocol : String) : Bool :=
  relay.settings.session.protocols.contains protocol

/-- The live session of a user. -/
def sessionOf? (relay : Relay) (user : UserId) : Option Session :=
  relay.sessions.find? (·.user = user)

/-- The live session on a port. -/
def sessionOn? (relay : Relay) (port : Port) : Option Session :=
  relay.sessions.find? (·.port = port)

/-- Whether a port cannot be taken: the well-known one, those of live
sessions, those that waiting requests keep in use, and those of other
programs. -/
def isBound (relay : Relay) (port : Port) : Bool :=
  port == relay.settings.connect.port ||
    relay.sessions.any (·.port = port) ||
    relay.directs.any (·.port = port) ||
    relay.foreign.contains port

/-- Change the session on a port. -/
def modify (relay : Relay) (port : Port) (change : Session → Session) : Relay :=
  { relay with
    sessions := relay.sessions.map fun session =>
      if session.port = port then change session else session }

/-- Hand letters to the sessions of their recipients.  A letter to a user
without a session is lost. -/
def post (relay : Relay) (letters : List Letter) : Relay :=
  { relay with
    sessions := relay.sessions.map fun session =>
      { session with
        events := session.events ++
          (letters.filter (·.recipient = session.user)).map (·.event) } }

/-- Datagrams leave the relay. -/
def emit (relay : Relay) (packets : List Packet) : Relay :=
  { relay with outgoing := relay.outgoing ++ packets }

/-- A user leaves the relay, if it has not left already. -/
def quit (relay : Relay) (user : UserId) (message : String) : Relay :=
  let step := relay.lobby.quit user message
  { relay with lobby := step.state }.post step.letters

/-- Take away what has been sent. -/
def takeOutgoing (relay : Relay) : Relay × List Packet :=
  ({ relay with outgoing := [] }, relay.outgoing)

/-- Take away what has been reported. -/
def takeReports (relay : Relay) : Relay × List Report :=
  ({ relay with reports := [] }, relay.reports)

end Relay

end Netplay
