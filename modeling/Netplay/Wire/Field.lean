/-
Module: Netplay.Wire.Field
Purpose: The fields of message bodies: reading them one by one and writing
  them.
Main exports:
  FormatError, Field.text, Field.u8, Field.u16, Field.u32, Field.bytes,
  Field.putText
-/
import Netplay.Text.Utf8

namespace Netplay

/-!
A body is a row of fields: texts that end with a NUL byte, integers of one, two
or four bytes, and runs of bytes whose length is known from elsewhere.  Each
reader returns the value and the bytes after it, or says how many bytes it
needed.
-/

/-- What is wrong with a message body or a connect text. -/
inductive FormatError where
  /-- A field needs more bytes than are left. -/
  | truncated (needed remaining : Nat)
  /-- A field holds a value it may not have. -/
  | invalidField (field : String) (value : Int)
  /-- A connect text is none of the known ones. -/
  | unknownGreeting (shown : String)
deriving Repr, Inhabited, DecidableEq

/-- The text of a format error. -/
def FormatError.message : FormatError → String
  | .truncated needed remaining =>
      s!"body truncated: needed {needed} bytes, {remaining} remaining"
  | .invalidField field value => s!"invalid field {field}: {value}"
  | .unknownGreeting shown => s!"unrecognized connect message: {shown}"

namespace Field

/-- Read the next `count` bytes. -/
def bytes (count : Nat) (body : Bytes) : Except FormatError (Bytes × Bytes) :=
  if body.length < count then .error (.truncated count body.length)
  else .ok (body.take count, body.drop count)

/-- Read a one-byte integer. -/
def u8 : Bytes → Except FormatError (UInt8 × Bytes)
  | b :: rest => .ok (b, rest)
  | [] => .error (.truncated 1 0)

/-- Read a two-byte integer. -/
def u16 : Bytes → Except FormatError (UInt16 × Bytes)
  | b0 :: b1 :: rest => .ok (Bytes.toUInt16 b0 b1, rest)
  | body => .error (.truncated 2 body.length)

/-- Read a four-byte integer. -/
def u32 : Bytes → Except FormatError (UInt32 × Bytes)
  | b0 :: b1 :: b2 :: b3 :: rest => .ok (Bytes.toUInt32 b0 b1 b2 b3, rest)
  | body => .error (.truncated 4 body.length)

/-- Read a text up to its NUL byte.  Ill-formed UTF-8 is replaced: clients
send whatever their own code page makes. -/
def text (body : Bytes) : Except FormatError (String × Bytes) :=
  let raw := body.takeWhile (· ≠ 0)
  match body.drop raw.length with
  | [] => .error (.truncated (body.length + 1) body.length)
  | _ :: rest => .ok (Utf8.decodeLossy raw, rest)

/-- The bytes of a text up to its first NUL, and the NUL that ends it. -/
def putText (value : String) : Bytes :=
  (Utf8.encode value).takeWhile (· ≠ 0) ++ [0]

end Field

end Netplay
