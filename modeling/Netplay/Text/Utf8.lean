/-
Module: Netplay.Text.Utf8
Purpose: UTF-8 decoding, strict and with replacement.
Main exports:
  Utf8.Piece, Utf8.next, Utf8.pieces, Utf8.decodeLossy, Utf8.decode?, Utf8.encode
-/
import Netplay.Bytes

namespace Netplay.Utf8

/-!
A byte string is cut into pieces from left to right: each piece is either one
well-formed character or one maximal ill-formed run, that is, the longest
start of a character that the following byte fails to continue, or a single
byte that can start none.  Lossy decoding puts U+FFFD for each ill-formed run;
strict decoding accepts only byte strings without any.
-/

/-- One character of a byte string, or one ill-formed run. -/
inductive Piece where
  | char (c : Char)
  | illFormed
deriving Repr, Inhabited, DecidableEq

/-- Bytes 0x80 to 0xBF continue a character. -/
def isContinuation (b : UInt8) : Bool :=
  0x80 ≤ b && b ≤ 0xBF

/-- The second bytes allowed after the lead byte of a three-byte character:
neither overlong forms nor surrogates. -/
def isSecondOfThree (lead b : UInt8) : Bool :=
  if lead = 0xE0 then 0xA0 ≤ b && b ≤ 0xBF
  else if lead = 0xED then 0x80 ≤ b && b ≤ 0x9F
  else isContinuation b

/-- The second bytes allowed after the lead byte of a four-byte character:
neither overlong forms nor values above U+10FFFF. -/
def isSecondOfFour (lead b : UInt8) : Bool :=
  if lead = 0xF0 then 0x90 ≤ b && b ≤ 0xBF
  else if lead = 0xF4 then 0x80 ≤ b && b ≤ 0x8F
  else isContinuation b

/-- The six payload bits of a continuation byte. -/
def payload (b : UInt8) : Nat := b.toNat % 64

/-- The first piece of `lead :: rest` and the number of bytes of `rest` that
belong to it. -/
def next (lead : UInt8) (rest : Bytes) : Piece × Nat :=
  if lead < 0x80 then (.char (Char.ofNat lead.toNat), 0)
  else if 0xC2 ≤ lead && lead ≤ 0xDF then
    match rest with
    | b1 :: _ =>
        if isContinuation b1 then
          (.char (Char.ofNat (lead.toNat % 32 * 64 + payload b1)), 1)
        else (.illFormed, 0)
    | [] => (.illFormed, 0)
  else if 0xE0 ≤ lead && lead ≤ 0xEF then
    match rest with
    | b1 :: b2 :: _ =>
        if !isSecondOfThree lead b1 then (.illFormed, 0)
        else if !isContinuation b2 then (.illFormed, 1)
        else
          (.char
            (Char.ofNat
              (lead.toNat % 16 * 4096 + payload b1 * 64 + payload b2)), 2)
    | [b1] => (.illFormed, if isSecondOfThree lead b1 then 1 else 0)
    | [] => (.illFormed, 0)
  else if 0xF0 ≤ lead && lead ≤ 0xF4 then
    match rest with
    | b1 :: b2 :: b3 :: _ =>
        if !isSecondOfFour lead b1 then (.illFormed, 0)
        else if !isContinuation b2 then (.illFormed, 1)
        else if !isContinuation b3 then (.illFormed, 2)
        else
          (.char
            (Char.ofNat
              (lead.toNat % 8 * 262144 + payload b1 * 4096 + payload b2 * 64 +
                payload b3)), 3)
    | [b1, b2] =>
        if !isSecondOfFour lead b1 then (.illFormed, 0)
        else (.illFormed, if isContinuation b2 then 2 else 1)
    | [b1] => (.illFormed, if isSecondOfFour lead b1 then 1 else 0)
    | [] => (.illFormed, 0)
  else (.illFormed, 0)

/-- The pieces of a byte string, from left to right. -/
def pieces : Bytes → List Piece
  | [] => []
  | lead :: rest =>
      let (piece, length) := next lead rest
      piece :: pieces (rest.drop length)
termination_by bytes => bytes.length
decreasing_by
  simp only [List.length_drop, List.length_cons]
  omega

/-- The character shown for a piece: U+FFFD for an ill-formed run. -/
def Piece.shown : Piece → Char
  | .char c => c
  | .illFormed => '\uFFFD'

/-- The character of a well-formed piece. -/
def Piece.char? : Piece → Option Char
  | .char c => some c
  | .illFormed => none

/-- Decode with one U+FFFD for each ill-formed run. -/
def decodeLossy (bytes : Bytes) : String :=
  String.ofList ((pieces bytes).map Piece.shown)

/-- Decode a byte string that has no ill-formed run. -/
def decode? (bytes : Bytes) : Option String :=
  ((pieces bytes).mapM Piece.char?).map String.ofList

/-- The UTF-8 bytes of a text. -/
def encode (text : String) : Bytes :=
  text.toList.flatMap String.utf8EncodeChar

end Netplay.Utf8
