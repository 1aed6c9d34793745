/-
Module: Netplay.Text.Hex
Purpose: Two-digit hexadecimal notation of a byte.
Main exports:
  Text.hexDigit, Text.hexByte
-/

namespace Netplay.Text

/-- The upper-case hexadecimal digit of a value below sixteen. -/
def hexDigit (value : Nat) : Char :=
  if value < 10 then Char.ofNat (48 + value) else Char.ofNat (55 + value)

/-- Two upper-case hexadecimal digits, high digit first. -/
def hexByte (b : UInt8) : String :=
  String.ofList [hexDigit (b.toNat / 16), hexDigit (b.toNat % 16)]

end Netplay.Text
