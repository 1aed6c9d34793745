/-
Module: Netplay.Wire.Outbox
Purpose: Numbering of outgoing messages and the recent ones kept for
  redundancy and resending.
Main exports:
  Outbox, Outbox.push, Outbox.newest, Outbox.send, Outbox.resend, resendCount
-/
import Netplay.Wire.Bundle

namespace Netplay

/-- The sending half of a session: the number of the next message and the most
recent messages, newest first. -/
structure Outbox where
  nextSeq : Sequence
  recent : List Message
deriving Repr, Inhabited, DecidableEq

namespace Outbox

/-- The most messages an outbox keeps, and the most one resend carries. -/
def capacity : Nat := 5

/-- The messages of a normal send: the new one and two before it. -/
def sendCount : Nat := 3

/-- An outbox that has sent nothing. -/
def empty : Outbox := ⟨0, []⟩

/-- Number a message and keep it, forgetting the oldest one beyond the
capacity. -/
def push (outbox : Outbox) (code : UInt8) (body : Bytes) : Outbox :=
  { nextSeq := outbox.nextSeq + 1
    recent := (⟨outbox.nextSeq, code, body⟩ :: outbox.recent).take capacity }

/-- The newest `count` messages, or all if there are fewer. -/
def newest (outbox : Outbox) (count : Nat) : Bundle :=
  ⟨outbox.recent.take count⟩

/-- Number and keep a message; the datagram carries it and the two before it. -/
def send (outbox : Outbox) (code : UInt8) (body : Bytes) : Bytes × Outbox :=
  let pushed := outbox.push code body
  ((pushed.newest sendCount).encode, pushed)

/-- The number of messages sent again for the `retry`-th retransmit request in
a row: three for each, up to the capacity. -/
def resendCount (retry : Nat) : Nat := min (3 * retry) capacity

/-- The datagram for the `retry`-th retransmit request in a row; none when it
would be empty. -/
def resend (outbox : Outbox) (retry : Nat) : Option Bytes :=
  if resendCount retry = 0 ∨ outbox.recent = [] then none
  else some (outbox.newest (resendCount retry)).encode

/-- The number of messages kept. -/
def stored (outbox : Outbox) : Nat := outbox.recent.length

/-- An outbox never keeps more than its capacity once a message is pushed. -/
theorem stored_push_le (outbox : Outbox) (code : UInt8) (body : Bytes) :
    (outbox.push code body).stored ≤ capacity := by
  simp only [stored, push, List.length_take]
  omega

end Outbox

end Netplay
