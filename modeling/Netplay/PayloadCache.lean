/-
Module: Netplay.PayloadCache
Purpose: The rolling cache of input payloads that both ends of a session keep
  in step, so that a payload seen before travels as a one-byte slot number.
Main exports:
  PayloadCache, PayloadCache.add, PayloadCache.get, PayloadCache.indexOf,
  PayloadCache.size
-/
import Netplay.Bytes

namespace Netplay

/-!
The payload added as number `j`, counting from zero, goes to slot `j mod 256`,
over the one that is there.  Beside its slots the cache keeps the place where
each payload was put last, so that a payload is found without a look into every
slot.  A payload that is written over loses its place only if that is the slot
that is written: otherwise a newer copy of it is somewhere else.
-/

/-- The slots, the slot where each payload was put last, and how many payloads
were added. -/
structure PayloadCache where
  slots : List (Option Bytes)
  places : List (Bytes × UInt8)
  added : Nat
deriving Repr, Inhabited, DecidableEq

namespace PayloadCache

/-- The number of slots. -/
def capacity : Nat := 256

/-- A cache that holds nothing. -/
def empty : PayloadCache := ⟨List.replicate capacity none, [], 0⟩

/-- The slot of the payload with number `index`. -/
def slotOf (index : Nat) : UInt8 := UInt8.ofNat (index % capacity)

/-- The payload in a slot. -/
def get (cache : PayloadCache) (slot : UInt8) : Option Bytes :=
  cache.slots[slot.toNat]?.join

/-- The slot of a payload; of several copies, that of the newest. -/
def indexOf (cache : PayloadCache) (payload : Bytes) : Option UInt8 :=
  cache.places.lookup payload

/-- The places of payloads once a slot is given up.  The payload in it keeps
its place if that is another slot. -/
def placesWithout (cache : PayloadCache) (slot : UInt8) : List (Bytes × UInt8) :=
  match cache.get slot with
  | none => cache.places
  | some evicted =>
      if cache.indexOf evicted = some slot then
        cache.places.filter (·.1 ≠ evicted)
      else cache.places

/-- Put a payload into the next slot, over the oldest one when all slots are
taken. -/
def add (cache : PayloadCache) (payload : Bytes) : UInt8 × PayloadCache :=
  let slot := slotOf cache.added
  (slot,
    { slots := cache.slots.set slot.toNat (some payload)
      places := (payload, slot) ::
        (cache.placesWithout slot).filter (·.1 ≠ payload)
      added := cache.added + 1 })

/-- The number of taken slots. -/
def size (cache : PayloadCache) : Nat := cache.slots.countP (·.isSome)

/-- Whether no slot is taken. -/
def isEmpty (cache : PayloadCache) : Bool := cache.slots.all (·.isNone)

end PayloadCache

end Netplay
