/-
Module: Netplay.Proofs.Datagrams
Purpose: Message numbers counted without end, and reading back a datagram that
  was written.
Main exports:
  Sequence.isNewer_ofNat, Sequence.succ_ofNat, Message.Valid,
  Bundle.parseMessages_encode, Bundle.parse_encode_append, Bundle.parse_encode
-/
import Netplay.Wire.Bundle

namespace Netplay

/-! ## Message numbers -/

namespace Sequence

/-- Among messages that lie less than half the ring apart, those with the newer
numbers are the later ones. -/
theorem isNewer_ofNat {candidate last : Nat} (ahead : candidate < last + 0x8000)
    (behind : last ≤ candidate + 0x8000) :
    isNewer (UInt16.ofNat candidate) (UInt16.ofNat last) = decide (last < candidate) := by
  have distance : (UInt16.ofNat candidate - UInt16.ofNat last).toNat =
      (65536 - last % 65536 + candidate % 65536) % 65536 := by
    rw [UInt16.toNat_sub, UInt16.toNat_ofNat', UInt16.toNat_ofNat']
  have positive : 0 < UInt16.ofNat candidate - UInt16.ofNat last ↔
      0 < (65536 - last % 65536 + candidate % 65536) % 65536 := by
    rw [UInt16.lt_iff_toNat_lt, distance]
    rfl
  have small : UInt16.ofNat candidate - UInt16.ofNat last < 0x8000 ↔
      (65536 - last % 65536 + candidate % 65536) % 65536 < 0x8000 := by
    rw [UInt16.lt_iff_toNat_lt, distance]
    rfl
  rw [isNewer, ← Bool.decide_and, decide_eq_decide, positive, small]
  omega

/-- The number after that of a message is the number of the next message, and
of none of the following ones. -/
theorem succ_ofNat {last later : Nat} (after : last < later)
    (near : later < last + 65536) :
    UInt16.ofNat last + 1 = UInt16.ofNat later ↔ last + 1 = later := by
  rw [← UInt16.toNat_inj, UInt16.toNat_add, UInt16.toNat_ofNat', UInt16.toNat_ofNat']
  change (last % 65536 + 1) % 65536 = later % 65536 ↔ _
  omega

end Sequence

/-! ## Datagrams -/

/-- A message that a datagram can carry: its type is known and its length fits
the length field. -/
structure Message.Valid (message : Message) : Prop where
  known : Command.isKnown message.code = true
  fits : message.body.length ≤ 65534

namespace Bundle

/-- Whether a message is kept when `last` is the newest number seen. -/
def isFresh (last : Option Sequence) (message : Message) : Bool :=
  !last.any fun newest => !Sequence.isNewer message.seq newest

/-- Messages read back, up to the first one that is not fresh. -/
theorem parseMessages_encode (total : Nat) (last : Option Sequence)
    {messages : List Message} (valid : ∀ message ∈ messages, message.Valid)
    (index : Nat) (rest : Bytes) :
    parseMessages total last messages.length index
        (messages.flatMap Message.encode ++ rest) =
      .ok (messages.takeWhile (isFresh last)) := by
  induction messages generalizing index with
  | nil => rfl
  | cons message older inductionHypothesis =>
      obtain ⟨known, fits⟩ := valid message List.mem_cons_self
      have olderValid := fun other member =>
        valid other (List.mem_cons_of_mem message member)
      have declared : (UInt16.ofNat message.length).toNat = message.body.length + 1 := by
        rw [UInt16.toNat_ofNat', Message.length]
        omega
      simp only [List.flatMap_cons, Message.encode, Bytes.ofUInt16, List.cons_append,
        List.nil_append, List.length_cons, parseMessages, Bytes.toUInt16_ofUInt16,
        List.append_assoc]
      by_cases fresh : isFresh last message = true
      · have stays : (last.any fun newest =>
            !Sequence.isNewer message.seq newest) = false := by
          simpa [isFresh] using fresh
        have enough : ¬ (message.body.length + 1 < 1 ∨
            (message.body ++ (older.flatMap Message.encode ++ rest)).length + 1 <
              message.body.length + 1) := by
          rw [List.length_append]
          omega
        rw [List.takeWhile_cons_of_pos fresh]
        simp only [stays, Bool.false_eq_true, if_false, declared, if_neg enough, known,
          Bool.not_true, Nat.add_sub_cancel, List.take_left, List.drop_left,
          inductionHypothesis olderValid]
        rfl
      · have stale : (last.any fun newest =>
            !Sequence.isNewer message.seq newest) = true := by
          simpa [isFresh] using fresh
        rw [List.takeWhile_cons_of_neg fresh]
        simp only [stale, if_true]

/-- A datagram that was written reads back, whatever follows it: its messages,
newest first, up to the first one that is not fresh. -/
theorem parse_encode_append {messages : List Message} (several : messages ≠ [])
    (few : messages.length ≤ maxMessages)
    (valid : ∀ message ∈ messages, message.Valid) (last : Option Sequence)
    (rest : Bytes) :
    parse (encode ⟨messages⟩ ++ rest) last =
      .ok ⟨messages.takeWhile (isFresh last)⟩ := by
  have positive : 0 < messages.length := List.length_pos_iff.mpr several
  have limit : messages.length ≤ 32 := few
  have count : (UInt8.ofNat messages.length).toNat = messages.length := by
    rw [UInt8.toNat_ofNat']
    omega
  have accepted : ¬ (UInt8.ofNat messages.length = 0 ∨
      maxMessages < messages.length) := by
    rw [← UInt8.toNat_inj, count]
    have zero : (0 : UInt8).toNat = 0 := rfl
    omega
  have messagesRead := fun total => parseMessages_encode total last valid 0 rest
  simp only [encode, List.take_of_length_le few, List.cons_append, parse, count,
    if_neg accepted, messagesRead]
  rfl

/-- A datagram that was written reads back. -/
theorem parse_encode {messages : List Message} (several : messages ≠ [])
    (few : messages.length ≤ maxMessages)
    (valid : ∀ message ∈ messages, message.Valid) (last : Option Sequence) :
    parse (encode ⟨messages⟩) last = .ok ⟨messages.takeWhile (isFresh last)⟩ := by
  have read := parse_encode_append several few valid last []
  rwa [List.append_nil] at read

end Bundle

end Netplay
