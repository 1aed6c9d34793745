/-
Module: Netplay.Wire.Bundle
Purpose: Numbered messages and the datagrams that carry them.
Main exports:
  Message, Bundle, Bundle.encode, BundleError, Bundle.parse
-/
import Netplay.Text.Hex
import Netplay.Wire.Command
import Netplay.Wire.Sequence

namespace Netplay

/-!
A datagram is one count byte followed by that many messages, newest first.
A message is its number, the length of what follows, the byte of its type and
its body.  Numbers and lengths have two bytes; the length counts the type byte.
-/

/-- One numbered message; the body excludes the type byte. -/
structure Message where
  seq : Sequence
  code : UInt8
  body : Bytes
deriving Repr, Inhabited, DecidableEq

namespace Message

/-- The length field of a message before it is cut to sixteen bits: the body
and the type byte. -/
def length (message : Message) : Nat := message.body.length + 1

/-- The bytes a message takes in a datagram. -/
def encodedLength (message : Message) : Nat := message.body.length + 5

/-- A message as it stands in a datagram. -/
def encode (message : Message) : Bytes :=
  Bytes.ofUInt16 message.seq ++ Bytes.ofUInt16 (UInt16.ofNat message.length) ++
    message.code :: message.body

end Message

/-- The messages of one datagram, newest first. -/
structure Bundle where
  messages : List Message
deriving Repr, Inhabited, DecidableEq

namespace Bundle

/-- No datagram carries more messages than this. -/
def maxMessages : Nat := 32

/-- The order in which messages are acted on. -/
def oldestFirst (bundle : Bundle) : List Message := bundle.messages.reverse

/-- The bytes of a bundle when all its messages are written. -/
def encodedLength (bundle : Bundle) : Nat :=
  1 + bundle.messages.foldr (fun message rest => message.encodedLength + rest) 0

/-- The datagram of a bundle.  Messages past the limit are not written. -/
def encode (bundle : Bundle) : Bytes :=
  let written := bundle.messages.take maxMessages
  UInt8.ofNat written.length :: written.flatMap Message.encode

end Bundle

/-- What is wrong with a datagram. -/
inductive BundleError where
  /-- The datagram ends inside a message header; its length is given. -/
  | tooShort (length : Nat)
  /-- The count byte is zero or above the limit. -/
  | badCount (count : UInt8)
  /-- A message declares no type byte or more bytes than are left. -/
  | badLength (index declared remaining : Nat)
  /-- A message has a type that no message may have. -/
  | unknownCode (code : UInt8)
deriving Repr, Inhabited, DecidableEq

namespace BundleError

/-- The text of a datagram error. -/
def message : BundleError → String
  | tooShort length => s!"invalid buffer length: {length}"
  | badCount count => s!"invalid message count: {count}"
  | badLength index declared remaining =>
      s!"invalid bundle length: message {index} declares {declared} bytes, " ++
        s!"{remaining} remaining"
  | unknownCode code => "unknown message type: 0x" ++ Text.hexByte code

end BundleError

namespace Bundle

/-- Read `count` more messages; `index` have been read before and `total` is
the length of the datagram.  Reading stops early at the first message that is
not newer than `last`, before the rest of that message is looked at. -/
def parseMessages (total : Nat) (last : Option Sequence) :
    Nat → Nat → Bytes → Except BundleError (List Message)
  | 0, _, _ => .ok []
  | count + 1, index, s0 :: s1 :: l0 :: l1 :: rest =>
      let seq := Bytes.toUInt16 s0 s1
      if last.any fun newest => !Sequence.isNewer seq newest then .ok []
      else
        let declared := (Bytes.toUInt16 l0 l1).toNat
        if declared < 1 ∨ rest.length < declared then
          .error (.badLength index declared rest.length)
        else
          match rest with
          | [] => .error (.badLength index declared 0)
          | code :: rest =>
              if !Command.isKnown code then .error (.unknownCode code)
              else do
                let body := rest.take (declared - 1)
                let older ←
                  parseMessages total last count (index + 1)
                    (rest.drop (declared - 1))
                .ok (⟨seq, code, body⟩ :: older)
  | _ + 1, _, _ => .error (.tooShort total)

/-- Read one datagram.  With `last` given, only the leading messages newer
than `last` are kept; bytes after the last message are ignored. -/
def parse (datagram : Bytes) (last : Option Sequence) :
    Except BundleError Bundle :=
  match datagram with
  | [] => .error (.tooShort 0)
  | count :: rest =>
      if count = 0 ∨ maxMessages < count.toNat then .error (.badCount count)
      else do
        let messages ← parseMessages datagram.length last count.toNat 0 rest
        .ok ⟨messages⟩

end Bundle

end Netplay
