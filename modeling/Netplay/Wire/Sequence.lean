/-
Module: Netplay.Wire.Sequence
Purpose: Order of message numbers on the sixteen-bit ring.
Main exports:
  Sequence, Sequence.isNewer
-/

namespace Netplay

/-- The number of a message; it starts again at zero after 65535. -/
abbrev Sequence := UInt16

namespace Sequence

/-- `candidate` is newer than `last` when it lies less than half the ring, and
at least one step, ahead of it. -/
def isNewer (candidate last : Sequence) : Bool :=
  0 < candidate - last && candidate - last < 0x8000

end Sequence

end Netplay
