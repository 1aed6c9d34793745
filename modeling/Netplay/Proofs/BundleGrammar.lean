/-
Module: Netplay.Proofs.BundleGrammar
Purpose: Which byte strings are datagrams: those that some legal bundle is
  written as, whatever follows, and no others.
Main exports:
  Bundle.Legal, Bundle.parseMessages_exact, Bundle.length_encode,
  Bundle.grammar
-/
import Mathlib.Data.List.TakeWhile
import Netplay.Proofs.Datagrams

namespace Netplay

/-- A computation that succeeds does so in both its parts. -/
theorem exists_of_bind_eq_ok {ε α β : Type} {first : Except ε α} {next : α → Except ε β}
    {result : β} (succeeds : first >>= next = .ok result) :
    ∃ value, first = .ok value ∧ next value = .ok result := by
  cases first with
  | error error => cases succeeds
  | ok value => exact ⟨value, rfl, succeeds⟩

/-- A message whose length field says how long its body is stands in a datagram
as its number, its length, its type and its body. -/
theorem Message.encode_eq {s0 s1 l0 l1 code : UInt8} {body : Bytes}
    (length : (Bytes.toUInt16 l0 l1).toNat = body.length + 1) :
    (Message.mk (Bytes.toUInt16 s0 s1) code body).encode =
      s0 :: s1 :: l0 :: l1 :: code :: body := by
  have declared : UInt16.ofNat (body.length + 1) = Bytes.toUInt16 l0 l1 := by
    rw [← length, UInt16.ofNat_toNat]
  rw [encode, Message.length, declared, Bytes.ofUInt16_toUInt16,
    Bytes.ofUInt16_toUInt16]
  rfl

@[simp] theorem Message.length_encode (message : Message) :
    message.encode.length = message.encodedLength := by
  simp only [encode, encodedLength, List.length_append, Bytes.length_ofUInt16,
    List.length_cons]
  omega

/-- The types of messages are numbered without a gap. -/
theorem Command.isKnown_eq_true_iff (code : UInt8) :
    isKnown code = true ↔ 0x01 ≤ code ∧ code ≤ 0x17 := by
  rw [isKnown, Bool.and_eq_true, decide_eq_true_iff, decide_eq_true_iff]

namespace Bundle

/-- A bundle that a datagram can carry: it has 1 to 32 messages, each of a type
from 0x01 to 0x17 and with a body whose length, the type byte included, fits
the length field. -/
structure Legal (bundle : Bundle) : Prop where
  several : 1 ≤ bundle.messages.length
  few : bundle.messages.length ≤ 32
  types : ∀ message ∈ bundle.messages, 0x01 ≤ message.code ∧ message.code ≤ 0x17
  bodies : ∀ message ∈ bundle.messages, message.body.length ≤ 65534

/-- Each message of a legal bundle can be carried. -/
theorem Legal.valid {bundle : Bundle} (legal : bundle.Legal) :
    ∀ message ∈ bundle.messages, message.Valid := fun message member =>
  ⟨(Command.isKnown_eq_true_iff _).mpr (legal.types message member),
    legal.bodies message member⟩

/-- A legal bundle reads back as it is: with no number to compare with, every
message is fresh. -/
theorem Legal.parse_encode_append {bundle : Bundle} (legal : bundle.Legal)
    (rest : Bytes) : parse (bundle.encode ++ rest) none = .ok bundle := by
  have several : bundle.messages ≠ [] := List.length_pos_iff.mp legal.several
  have allFresh : bundle.messages.takeWhile (isFresh none) = bundle.messages :=
    List.takeWhile_eq_self_iff.mpr fun _ _ => rfl
  have read := Bundle.parse_encode_append several legal.few legal.valid none rest
  rwa [allFresh] at read

/-- What is read as messages was written as these messages: as many as were
asked for, each with a known type and a body that its length field can count. -/
theorem parseMessages_exact {total count index : Nat} {data : Bytes}
    {messages : List Message}
    (read : parseMessages total none count index data = .ok messages) :
    messages.length = count ∧ (∀ message ∈ messages, message.Valid) ∧
      ∃ rest, data = messages.flatMap Message.encode ++ rest := by
  -- Along the reader: every branch but the first and the one that goes on is an
  -- error, and nothing is stale without a number to compare with.
  fun_induction parseMessages total none count index data generalizing messages with
  | case1 index data =>
      cases read
      exact ⟨rfl, List.forall_mem_nil _, data, rfl⟩
  | case2 =>
      rename_i stale
      cases stale
  | case3 | case4 | case5 | case7 => cases read
  | case6 count index s0 s1 l0 l1 seq fresh declared code rest known body enough =>
      rename_i inductionHypothesis
      obtain ⟨older, olderRead, made⟩ := exists_of_bind_eq_ok read
      cases made
      obtain ⟨length, valid, after, split⟩ := inductionHypothesis olderRead
      rw [not_or, List.length_cons] at enough
      have positive : ¬ declared < 1 := enough.1
      have inside : ¬ rest.length + 1 < declared := enough.2
      have bodyLength : body.length = declared - 1 := by
        rw [List.length_take]
        omega
      have small : declared < 65536 := (Bytes.toUInt16 l0 l1).toNat_lt
      have written : (Message.mk seq code body).encode =
          s0 :: s1 :: l0 :: l1 :: code :: body := by
        apply Message.encode_eq
        change declared = body.length + 1
        omega
      refine ⟨congrArg (· + 1) length, ?_, after, ?_⟩
      · rw [List.forall_mem_cons]
        refine ⟨⟨by simpa using known, ?_⟩, valid⟩
        change body.length ≤ 65534
        omega
      · rw [List.flatMap_cons, written, List.append_assoc, ← split]
        simp only [List.cons_append, body, List.take_append_drop]

/-- What is read as a bundle is legal, and was written as this bundle. -/
theorem parse_exact {datagram : Bytes} {bundle : Bundle}
    (read : parse datagram none = .ok bundle) :
    bundle.Legal ∧ ∃ rest, datagram = bundle.encode ++ rest := by
  cases datagram with
  | nil => cases read
  | cons count data =>
      rw [parse] at read
      split at read
      · cases read
      · rename_i accepted
        obtain ⟨messages, messagesRead, made⟩ := exists_of_bind_eq_ok read
        cases made
        obtain ⟨length, valid, rest, split⟩ := parseMessages_exact messagesRead
        rw [not_or, maxMessages] at accepted
        have positive : count.toNat ≠ 0 := fun zero =>
          accepted.1 (UInt8.toNat_inj.mp zero)
        have few : messages.length ≤ 32 := by omega
        refine ⟨⟨?_, few, ?_, fun message member => (valid message member).fits⟩,
          rest, ?_⟩
        · change 1 ≤ messages.length
          omega
        · exact fun message member =>
            (Command.isKnown_eq_true_iff _).mp (valid message member).known
        · have all : messages.take maxMessages = messages := List.take_of_length_le few
          rw [encode, all, length, UInt8.ofNat_toNat, List.cons_append, ← split]

/-- A legal bundle is written in full: its datagram has as many bytes as its
messages take and the count byte. -/
theorem Legal.length_encode {bundle : Bundle} (legal : bundle.Legal) :
    bundle.encode.length = bundle.encodedLength := by
  have sum : ∀ messages : List Message, (messages.flatMap Message.encode).length =
      messages.foldr (fun message rest => message.encodedLength + rest) 0 := by
    intro messages
    induction messages with
    | nil => rfl
    | cons message older inductionHypothesis =>
        rw [List.flatMap_cons, List.length_append, Message.length_encode,
          inductionHypothesis, List.foldr_cons]
  have all : bundle.messages.take maxMessages = bundle.messages :=
    List.take_of_length_le legal.few
  rw [encode, all, List.length_cons, sum, encodedLength,
    Nat.add_comm]

/-- The grammar of datagrams.  A byte string is read as a bundle exactly when
the bundle is legal and the string is its datagram, whatever follows.  So
exactly the legal bundles read back after they are written, and the datagram of
a legal bundle has the length that is foretold. -/
theorem grammar (bundle : Bundle) :
    (∀ datagram, parse datagram none = .ok bundle ↔
      bundle.Legal ∧ ∃ rest, datagram = bundle.encode ++ rest) ∧
    (parse bundle.encode none = .ok bundle ↔ bundle.Legal) ∧
    (bundle.Legal → bundle.encode.length = bundle.encodedLength) := by
  have accepts : ∀ datagram, parse datagram none = .ok bundle ↔
      bundle.Legal ∧ ∃ rest, datagram = bundle.encode ++ rest := by
    intro datagram
    constructor
    · exact parse_exact
    · rintro ⟨legal, rest, rfl⟩
      exact legal.parse_encode_append rest
  refine ⟨accepts, ?_, Legal.length_encode⟩
  rw [accepts]
  exact ⟨And.left, fun legal => ⟨legal, [], (List.append_nil _).symm⟩⟩

/-- The longest body that a message can have is carried. -/
theorem grammar_longest :
    let bundle : Bundle := ⟨[⟨0xFFFF, 0x17, List.replicate 65534 0⟩]⟩
    parse bundle.encode none = .ok bundle ∧ bundle.encode.length = 65540 := by
  intro bundle
  have legal : bundle.Legal :=
    { several := Nat.le_refl 1
      few := by decide
      types := by
        rw [List.forall_mem_singleton]
        decide
      bodies := by
        rw [List.forall_mem_singleton, List.length_replicate] }
  obtain ⟨-, readsBack, length⟩ := grammar bundle
  refine ⟨readsBack.mpr legal, (length legal).trans ?_⟩
  rw [encodedLength, List.foldr_cons, Message.encodedLength, List.length_replicate]
  rfl

-- One byte more, and the length field starts again at zero.
example : ¬ Legal ⟨[⟨0, 0x12, List.replicate 65535 0⟩]⟩ := by
  intro legal
  have fits := legal.bodies _ List.mem_cons_self
  rw [List.length_replicate] at fits
  omega

end Bundle

end Netplay
