/-
Module: Netplay.Relay.Greet
Purpose: Greetings on the well-known port.
Main exports:
  Denial, Relay.grant, Relay.greet
-/
import Netplay.Greeting
import Netplay.Relay.Basic

namespace Netplay

/-- Why a client is not granted a session. -/
inductive Denial where
  | unsupportedProtocol
  | full
  /-- The port chosen for the session is in use. -/
  | portTaken
  /-- The session cannot be started on the port chosen for it. -/
  | unstarted
deriving Repr, Inhabited, DecidableEq

namespace Relay

/-- Grant a session on the port that has been free the longest.  A denied
client leaves the relay as it was, but for the order in which ports are handed
out, and for the next user number if its session cannot be started. -/
def grant (relay : Relay) (client : Address) (protocol : String) :
    Relay × Except Denial Port :=
  if !relay.supports protocol then (relay, .error .unsupportedProtocol)
  else if relay.settings.server.maxUsers ≤ relay.lobby.people.present.length then
    (relay, .error .full)
  else
    match relay.ports.allocate with
    | none => (relay, .error .full)
    | some (port, ports) =>
        if relay.isBound port then
          ({ relay with ports := ports.release port }, .error .portTaken)
        else
          let step := relay.lobby.connect client protocol
          match step.result with
          | .error _ => ({ relay with ports := ports.release port }, .error .full)
          | .ok user =>
              if relay.faulty.contains port then
                -- Only the user itself is told, and nobody listens for it.
                let left := step.state.quit user "session failed to start"
                ({ relay with lobby := left.state, ports := ports.release port },
                  .error .unstarted)
              else
                let session := Session.begin user port client.host relay.now
                ({ relay with
                    lobby := step.state
                    ports := ports
                    sessions := relay.sessions ++ [session] }.post step.letters,
                  .ok port)

/-- Count a greeting and what became of it. -/
def count (relay : Relay) (change : Tally → Tally) : Relay :=
  { relay with
    tally := change { relay.tally with requests := relay.tally.requests + 1 } }

/-- Send a greeting back. -/
def reply (relay : Relay) (client : Address) (greeting : Greeting) : Relay :=
  relay.emit [⟨relay.settings.connect.port, client, greeting.encode⟩]

/-- Answer a client that asks for a session. -/
def hello (relay : Relay) (client : Address) (protocol : String) : Relay :=
  match relay.grant client protocol with
  | (after, .ok port) =>
      (after.count fun t => { t with connects := t.connects + 1 }).reply client
        (.granted port)
  | (after, .error .full) =>
      (after.count fun t => { t with deniedFull := t.deniedFull + 1 }).reply client
        .tooMany
  | (after, .error .unsupportedProtocol) =>
      after.count fun t => { t with protocolErrors := t.protocolErrors + 1 }
  | (after, .error .portTaken) | (after, .error .unstarted) =>
      after.count fun t => { t with deniedOther := t.deniedOther + 1 }

/-- Take in a datagram on the well-known port.  A ping is answered, a request
for a session granted or denied, and anything else only counted. -/
def greet (relay : Relay) (client : Address) (datagram : Bytes) : Relay :=
  match Greeting.parse (datagram.take relay.settings.connect.bufferSize) with
  | .ok .ping =>
      (relay.count fun t => { t with pings := t.pings + 1 }).reply client .pong
  | .ok (.hello protocol) => relay.hello client protocol
  | _ => relay.count fun t => { t with formatErrors := t.formatErrors + 1 }

end Relay

end Netplay
