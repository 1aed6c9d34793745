/-
Module: Netplay.Wire.Inbox
Purpose: Tracking of incoming message numbers: which messages are accepted,
  where a gap lies, and when the other side asks for a resend.
Main exports:
  Inbox, Accepted, Arrival, Inbox.receive
-/
import Netplay.Wire.Bundle

namespace Netplay

/-- The receiving half of a session: the last two accepted numbers and the
number of retransmit requests in a row. -/
structure Inbox where
  last : Option Sequence
  previous : Option Sequence
  /-- Counted in thirty-two bits: the request after 2³² - 1 in a row counts as
  none again. -/
  retries : UInt32
deriving Repr, Inhabited, DecidableEq

/-- An accepted message; `gap` says that the message before it is missing. -/
structure Accepted where
  message : Message
  gap : Bool
deriving Repr, Inhabited, DecidableEq

/-- What one datagram amounts to. -/
inductive Arrival where
  /-- It cannot be read and changes nothing. -/
  | rejected (error : BundleError)
  /-- It holds nothing new: the other side asks, for the given time in a row,
  to have recent messages sent again. -/
  | retransmitRequest (retry : UInt32)
  /-- It holds these new messages, oldest first. -/
  | messages (accepted : List Accepted)
deriving Repr, Inhabited, DecidableEq

namespace Inbox

/-- An inbox that has accepted nothing. -/
def empty : Inbox := ⟨none, none, 0⟩

/-- Accept one message if it is newer than the last accepted one. -/
def accept (inbox : Inbox) (message : Message) : Inbox × Option Accepted :=
  if inbox.last.any fun last => !Sequence.isNewer message.seq last then
    (inbox, none)
  else
    ({ inbox with last := some message.seq, previous := inbox.last },
      some ⟨message, inbox.last.any fun last => last + 1 ≠ message.seq⟩)

/-- Accept messages in the given order, skipping those that are not newer than
the last accepted one. -/
def acceptAll (inbox : Inbox) : List Message → Inbox × List Accepted
  | [] => (inbox, [])
  | message :: rest =>
      let (next, taken) := inbox.accept message
      let (final, others) := next.acceptAll rest
      (final, taken.toList ++ others)

/-- Take in one datagram. -/
def receive (inbox : Inbox) (datagram : Bytes) : Inbox × Arrival :=
  match Bundle.parse datagram inbox.last with
  | .error error => (inbox, .rejected error)
  | .ok bundle =>
      if bundle.messages = [] then
        ({ inbox with retries := inbox.retries + 1 },
          .retransmitRequest (inbox.retries + 1))
      else
        let (next, accepted) :=
          { inbox with retries := 0 }.acceptAll bundle.oldestFirst
        (next, .messages accepted)

end Inbox

end Netplay
