/-
Module: Netplay.Bytes
Purpose: Byte strings and the little-endian integers written into them.
Main exports:
  Bytes, Bytes.ofUInt16, Bytes.ofUInt32, Bytes.toUInt16, Bytes.toUInt32
-/

namespace Netplay

/-!
Every datagram, message body and input frame of the relay is a list of bytes.
Integers travel in little-endian order.  They are taken apart and put
together by division and remainder on natural numbers, which keeps every fact
about them within linear arithmetic.
-/

/-- A string of bytes. -/
abbrev Bytes := List UInt8

namespace Bytes

/-- The two bytes of `n`, low byte first. -/
def ofUInt16 (n : UInt16) : Bytes :=
  [UInt8.ofNat (n.toNat % 256), UInt8.ofNat (n.toNat / 256)]

/-- The four bytes of `n`, low byte first. -/
def ofUInt32 (n : UInt32) : Bytes :=
  [UInt8.ofNat (n.toNat % 256), UInt8.ofNat (n.toNat / 256 % 256),
    UInt8.ofNat (n.toNat / 65536 % 256), UInt8.ofNat (n.toNat / 16777216)]

/-- The number whose low byte is `low` and whose high byte is `high`. -/
def toUInt16 (low high : UInt8) : UInt16 :=
  UInt16.ofNat (low.toNat + 256 * high.toNat)

/-- The number with the four given bytes, low byte first. -/
def toUInt32 (b0 b1 b2 b3 : UInt8) : UInt32 :=
  UInt32.ofNat
    (b0.toNat + 256 * b1.toNat + 65536 * b2.toNat + 16777216 * b3.toNat)

@[simp] theorem length_ofUInt16 (n : UInt16) : (ofUInt16 n).length = 2 := rfl

@[simp] theorem length_ofUInt32 (n : UInt32) : (ofUInt32 n).length = 4 := rfl

/-- A two-byte number reads back. -/
theorem toUInt16_ofUInt16 (n : UInt16) :
    toUInt16 (UInt8.ofNat (n.toNat % 256)) (UInt8.ofNat (n.toNat / 256)) = n := by
  have bound := n.toNat_lt
  apply UInt16.toNat_inj.mp
  simp only [toUInt16, UInt16.toNat_ofNat', UInt8.toNat_ofNat']
  omega

/-- A four-byte number reads back. -/
theorem toUInt32_ofUInt32 (n : UInt32) :
    toUInt32 (UInt8.ofNat (n.toNat % 256)) (UInt8.ofNat (n.toNat / 256 % 256))
      (UInt8.ofNat (n.toNat / 65536 % 256))
      (UInt8.ofNat (n.toNat / 16777216)) = n := by
  have bound := n.toNat_lt
  apply UInt32.toNat_inj.mp
  simp only [toUInt32, UInt32.toNat_ofNat', UInt8.toNat_ofNat']
  omega

/-- Two bytes are the bytes of the number they spell. -/
theorem ofUInt16_toUInt16 (low high : UInt8) :
    ofUInt16 (toUInt16 low high) = [low, high] := by
  have lowBound := low.toNat_lt
  have highBound := high.toNat_lt
  have value : (toUInt16 low high).toNat = low.toNat + 256 * high.toNat := by
    simp only [toUInt16, UInt16.toNat_ofNat']
    omega
  have lowEq : UInt8.ofNat ((toUInt16 low high).toNat % 256) = low := by
    apply UInt8.toNat_inj.mp
    simp only [value, UInt8.toNat_ofNat']
    omega
  have highEq : UInt8.ofNat ((toUInt16 low high).toNat / 256) = high := by
    apply UInt8.toNat_inj.mp
    simp only [value, UInt8.toNat_ofNat']
    omega
  simp only [ofUInt16, lowEq, highEq]

end Bytes

end Netplay
