/-
Module: Netplay.PortPool
Purpose: The ports handed out to sessions.
Main exports:
  PortPool, PortPool.finish, PortPool.range, PortPool.allocate, PortPool.release
-/

namespace Netplay

/-- A UDP port. -/
abbrev Port := UInt16

/-- A range of ports and those of them that are free, next one first. -/
structure PortPool where
  start : Port
  capacity : Nat
  free : List Port
deriving Repr, Inhabited, DecidableEq

namespace PortPool

/-- The number behind the last of `count` ports from `start`, cut behind the
last port there is.  The sum is taken in sixty-four bits and is not checked. -/
def finish (start : Port) (count : Nat) : UInt64 :=
  min (start.toUInt64 + UInt64.ofNat count) 65536

/-- The pool of the `count` ports from `start`, cut at the last port there
is.  If the sum has run over, there are none, and the capacity runs over too. -/
def range (start : Port) (count : Nat) : PortPool :=
  { start := start
    capacity := (finish start count - start.toUInt64).toNat
    free := (List.range ((finish start count).toNat - start.toNat)).map fun offset =>
      UInt16.ofNat (start.toNat + offset) }

/-- Whether a port belongs to the pool. -/
def owns (pool : PortPool) (port : Port) : Bool :=
  pool.start ≤ port && (port - pool.start).toNat < pool.capacity

/-- Take the port that has been free the longest. -/
def allocate (pool : PortPool) : Option (Port × PortPool) :=
  match pool.free with
  | [] => none
  | port :: free => some (port, { pool with free := free })

/-- Give a port back.  It is the last to be handed out again; a port outside
the pool is ignored. -/
def release (pool : PortPool) (port : Port) : PortPool :=
  if pool.owns port then { pool with free := pool.free ++ [port] } else pool

/-- The number of free ports. -/
def available (pool : PortPool) : Nat := pool.free.length

end PortPool

end Netplay
