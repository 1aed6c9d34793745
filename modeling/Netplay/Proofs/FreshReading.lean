/-
Module: Netplay.Proofs.FreshReading
Purpose: Reading a datagram behind the newest number seen: what is read are the fresh
  messages at the head of what the whole datagram holds, and every error is one that the
  whole datagram has.
Main exports:
  Bundle.FreshPart, Bundle.Agrees, Bundle.agrees_parseMessages, Bundle.agrees_parse,
  Bundle.fresh_reading
-/
import Netplay.Proofs.BundleGrammar

namespace Netplay.Bundle

variable {last : Sequence} {bundle : Bundle}

/-- The messages at the head of a bundle that are all newer than a number, and as many
of them as there are. -/
structure FreshPart (last : Sequence) (bundle fresh : Bundle) : Prop where
  head : fresh.messages <+: bundle.messages
  newer : ∀ message ∈ fresh.messages, Sequence.isNewer message.seq last = true
  longest : ∀ messages, messages <+: bundle.messages →
    (∀ message ∈ messages, Sequence.isNewer message.seq last = true) →
      messages <+: fresh.messages

theorem isFresh_some (last : Sequence) (message : Message) :
    isFresh (some last) message = Sequence.isNewer message.seq last := by
  rw [isFresh, Option.any_some, Bool.not_not]

/-- A bundle has its fresh part up to the first message that is not newer. -/
theorem freshPart_takeWhile (last : Sequence) (messages : List Message) :
    FreshPart last ⟨messages⟩ ⟨messages.takeWhile (isFresh (some last))⟩ where
  head := List.takeWhile_prefix _
  newer message member := by
    rw [← isFresh_some]
    exact List.mem_takeWhile_imp member
  longest others head newer := by
    obtain ⟨rest, rfl⟩ := head
    have all : ∀ message ∈ others, isFresh (some last) message = true := fun message member =>
      (isFresh_some last message).trans (newer message member)
    rw [List.takeWhile_append_of_pos all]
    exact List.prefix_append others _

/-- Nothing but fresh messages is read. -/
theorem isFresh_of_parseMessages {last : Option Sequence} {total count index : Nat}
    {data : Bytes} {messages : List Message}
    (read : parseMessages total last count index data = .ok messages) :
    ∀ message ∈ messages, isFresh last message = true := by
  fun_induction parseMessages total last count index data generalizing messages with
  | case1 | case2 =>
      cases read
      exact List.forall_mem_nil _
  | case3 | case4 | case5 | case7 => cases read
  | case6 =>
      rename_i fresh _ _ _ _ _ _ inductionHypothesis
      obtain ⟨older, olderRead, made⟩ := exists_of_bind_eq_ok read
      cases made
      rw [List.forall_mem_cons]
      exact ⟨by simpa [isFresh] using fresh, inductionHypothesis olderRead⟩

theorem isFresh_of_parse {last : Option Sequence} {datagram : Bytes}
    (read : parse datagram last = .ok bundle) :
    ∀ message ∈ bundle.messages, isFresh last message = true := by
  cases datagram with
  | nil => cases read
  | cons count rest =>
      rw [parse] at read
      split at read
      · cases read
      · obtain ⟨messages, messagesRead, made⟩ := exists_of_bind_eq_ok read
        cases made
        exact isFresh_of_parseMessages messagesRead

/-! ## Reading with and without a number -/

/-- Messages read behind a number agree with those read without: they are the fresh ones
at the head, and an error is the same error. -/
def Agrees (last : Sequence) (plain behind : Except BundleError (List Message)) : Prop :=
  (∀ messages, plain = .ok messages →
    behind = .ok (messages.takeWhile (isFresh (some last)))) ∧
    ∀ error, behind = .error error → plain = .error error

namespace Agrees

theorem error (last : Sequence) (error : BundleError) :
    Agrees last (.error error) (.error error) :=
  ⟨fun _ read => (nomatch read), fun _ failed => failed⟩

/-- Nothing is read, and nothing fresh is at the head. -/
theorem nothing {plain : Except BundleError (List Message)}
    (stale : ∀ messages, plain = .ok messages →
      messages.takeWhile (isFresh (some last)) = []) : Agrees last plain (.ok []) :=
  ⟨fun messages read => by rw [stale messages read], fun _ failed => by cases failed⟩

/-- An error behind a message that is not fresh is not seen. -/
theorem unseen (last : Sequence) (error : BundleError) : Agrees last (.error error) (.ok []) :=
  .nothing fun _ read => by cases read

/-- Nor is anything else that is behind such a message. -/
theorem stale {message : Message} (old : ¬ isFresh (some last) message = true)
    (rest : Except BundleError (List Message)) :
    Agrees last (rest >>= fun older => .ok (message :: older)) (.ok []) := by
  refine .nothing fun messages read => ?_
  obtain ⟨older, -, made⟩ := exists_of_bind_eq_ok read
  cases made
  exact List.takeWhile_cons_of_neg old

/-- A fresh message is read before the rest. -/
theorem cons {message : Message} (new : isFresh (some last) message = true)
    {plain behind : Except BundleError (List Message)} (agrees : Agrees last plain behind) :
    Agrees last (plain >>= fun older => .ok (message :: older))
      (behind >>= fun older => .ok (message :: older)) := by
  constructor
  · intro messages read
    obtain ⟨older, olderRead, made⟩ := exists_of_bind_eq_ok read
    cases made
    rw [agrees.1 older olderRead, List.takeWhile_cons_of_pos new]
    rfl
  · intro error failed
    cases behindRead : behind with
    | ok older =>
        rw [behindRead] at failed
        cases failed
    | error other =>
        rw [behindRead] at failed
        rw [agrees.2 other behindRead]
        exact failed

end Agrees

/-- The reader that stops at the first message that is not fresh agrees with the one
that does not, on whatever bytes. -/
theorem agrees_parseMessages (last : Sequence) (total count index : Nat) (data : Bytes) :
    Agrees last (parseMessages total none count index data)
      (parseMessages total (some last) count index data) := by
  -- Along the reader without a number.  The other one takes the same branch, unless the
  -- message is not fresh: then it looks at nothing more.
  fun_induction parseMessages total none count index data with
  | case1 => exact .nothing fun _ read => by cases read; rfl
  | case2 =>
      rename_i stale
      cases stale
  | case3 | case4 | case5 =>
      simp only [parseMessages]
      split
      · exact .unseen last _
      · exact .error last _
  | case6 =>
      rename_i inductionHypothesis
      simp only [parseMessages]
      split
      · rename_i old
        refine .stale ?_ _
        simpa [isFresh] using old
      · rename_i new
        refine .cons ?_ inductionHypothesis
        simpa [isFresh] using new
  | case7 =>
      rename_i count index data short
      rw [parseMessages]
      · exact .error last _
      · exact short

theorem agrees_parse (last : Sequence) (datagram : Bytes) :
    Agrees last ((parse datagram none).map Bundle.messages)
      ((parse datagram (some last)).map Bundle.messages) := by
  cases datagram with
  | nil => exact .error last _
  | cons count rest =>
      simp only [parse]
      split
      · exact .error last _
      · have agrees := agrees_parseMessages last (count :: rest).length count.toNat 0 rest
        revert agrees
        generalize parseMessages _ none count.toNat 0 rest = plain
        generalize parseMessages _ (some last) count.toNat 0 rest = behind
        cases plain <;> cases behind <;> exact id

/-- What the whole datagram holds decides what is read of it behind a number. -/
theorem parse_fresh {datagram : Bytes} (last : Sequence)
    (read : parse datagram none = .ok bundle) :
    ∃ fresh, parse datagram (some last) = .ok fresh ∧ FreshPart last bundle fresh := by
  have agrees := (agrees_parse last datagram).1 bundle.messages (by rw [read]; rfl)
  cases behind : parse datagram (some last) with
  | error error =>
      rw [behind] at agrees
      cases agrees
  | ok fresh =>
      rw [behind] at agrees
      have made : fresh = ⟨bundle.messages.takeWhile (isFresh (some last))⟩ :=
        congrArg Bundle.mk (Except.ok.inj agrees)
      exact ⟨fresh, rfl, made ▸ freshPart_takeWhile last bundle.messages⟩

theorem parse_error {datagram : Bytes} {last : Sequence} {error : BundleError}
    (failed : parse datagram (some last) = .error error) :
    parse datagram none = .error error := by
  have agrees := (agrees_parse last datagram).2 error (by rw [failed]; rfl)
  cases plain : parse datagram none with
  | error other =>
      rw [plain] at agrees
      exact congrArg _ (Except.error.inj agrees)
  | ok bundle =>
      rw [plain] at agrees
      cases agrees

/-- On whatever bytes and behind whatever number: if the datagram can be read whole, then
exactly the fresh messages at its head are read; if it cannot be read behind the number,
then it cannot be read at all, for the same reason; and of a legal bundle that is written
exactly the fresh part is read. -/
theorem fresh_reading (datagram : Bytes) (last : Sequence) :
    (∀ bundle, parse datagram none = .ok bundle →
      ∃ fresh, parse datagram (some last) = .ok fresh ∧ FreshPart last bundle fresh) ∧
    (∀ error, parse datagram (some last) = .error error →
      parse datagram none = .error error) ∧
    ∀ bundle : Bundle, bundle.Legal →
      ∃ fresh, parse bundle.encode (some last) = .ok fresh ∧ FreshPart last bundle fresh := by
  refine ⟨fun _ => parse_fresh last, fun _ => parse_error, fun bundle legal => ?_⟩
  have whole := legal.parse_encode_append []
  rw [List.append_nil] at whole
  exact parse_fresh last whole

/-- The number before the two newest messages is the last one of the ring. -/
theorem fresh_reading_wrapped :
    let bundle : Bundle := ⟨[⟨1, 0x07, [98, 0]⟩, ⟨0, 0x07, [97, 0]⟩, ⟨0xFFFF, 0x07, [0]⟩]⟩
    parse bundle.encode none = .ok bundle ∧ bundle.Legal ∧
      ∃ fresh, parse bundle.encode (some 0xFFFF) = .ok fresh ∧
        FreshPart 0xFFFF bundle fresh := by
  intro bundle
  have whole : parse bundle.encode none = .ok bundle := rfl
  obtain ⟨reads, -, -⟩ := fresh_reading bundle.encode 0xFFFF
  exact ⟨whole, (parse_exact whole).1, reads bundle whole⟩

-- A message that is not newer ends the reading, so the message behind it, of a type that
-- does not exist, is no error.
example :
    let datagram : Bytes := [2, 5, 0, 1, 0, 0x07, 4, 0, 1, 0, 0x30]
    parse datagram none = .error (.unknownCode 0x30) ∧
      parse datagram (some 4) = .ok ⟨[⟨5, 0x07, []⟩]⟩ := by
  exact ⟨rfl, rfl⟩

end Netplay.Bundle
