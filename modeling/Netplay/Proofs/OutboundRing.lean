/-
Module: Netplay.Proofs.OutboundRing
Purpose: What an outbox remembers after any number of messages: the number of the next one
  and the newest five, each with the number under which it was issued.  The datagrams it
  makes read back as the newest messages.
Main exports:
  Outbox.Keeps, Outbox.Keeps.push, Outbox.Call, Outbox.after, Outbox.issued,
  Outbox.keeps_after, Outbox.Remembers, Outbox.parse_newest, Outbox.ring
-/
import Mathlib.Data.List.Induction
import Mathlib.Data.List.TakeWhile
import Netplay.Proofs.Datagrams
import Netplay.Wire.Outbox

namespace Netplay.Outbox

variable {outbox : Outbox} {sent : List Message}

/-! ## Resending -/

theorem resendCount_eq_zero_iff {retry : Nat} : resendCount retry = 0 ↔ retry = 0 := by
  unfold resendCount capacity
  omega

theorem resendCount_le (retry : Nat) : resendCount retry ≤ capacity := Nat.min_le_right ..

theorem resend_eq_none_iff {retry : Nat} :
    outbox.resend retry = none ↔ retry = 0 ∨ outbox.recent = [] := by
  rw [← resendCount_eq_zero_iff, resend]
  split
  · rename_i barred
    exact iff_of_true rfl barred
  · rename_i free
    exact iff_of_false (Option.some_ne_none _) free

/-- What is sent again are the newest messages, if there are any. -/
theorem resend_eq_some_iff {retry : Nat} {data : Bytes} :
    outbox.resend retry = some data ↔
      ¬ (retry = 0 ∨ outbox.recent = []) ∧ (outbox.newest (resendCount retry)).encode = data := by
  rw [← resendCount_eq_zero_iff, resend]
  split
  · rename_i barred
    exact iff_of_false (fun none => by cases none) fun free => free.1 barred
  · rename_i free
    rw [Option.some_inj, and_iff_right free]

/-! ## Numbering -/

/-- The messages numbered so far have the numbers from zero on, and the newest ones
are kept. -/
structure Keeps (outbox : Outbox) (sent : List Message) : Prop where
  next : outbox.nextSeq = UInt16.ofNat sent.length
  recent : outbox.recent = sent.reverse.take capacity
  numbers : ∀ (index : Nat) (message : Message),
    sent[index]? = some message → message.seq = UInt16.ofNat index

namespace Keeps

theorem empty : Outbox.empty.Keeps [] := ⟨rfl, rfl, fun _ _ place => by cases place⟩

theorem stored (keeps : outbox.Keeps sent) : outbox.stored = min capacity sent.length := by
  rw [Outbox.stored, keeps.recent, List.length_take, List.length_reverse]

theorem push (keeps : outbox.Keeps sent) (code : UInt8) (body : Bytes) :
    (outbox.push code body).Keeps (sent ++ [⟨outbox.nextSeq, code, body⟩]) := by
  constructor
  · rw [Outbox.push, keeps.next, List.length_append, UInt16.ofNat_add]
    rfl
  · rw [List.reverse_append, Outbox.push, keeps.recent]
    exact congrArg (_ :: ·) (List.take_take ..)
  · intro index message place
    rw [List.getElem?_append] at place
    split at place
    · exact keeps.numbers index message place
    · rename_i beyond
      obtain ⟨inside, rfl⟩ := List.getElem?_eq_some_iff.mp place
      rw [List.length_singleton] at inside
      have last : index = sent.length := by omega
      rw [List.getElem_singleton, keeps.next, last]

/-- A few of the newest messages; there are no more than are kept. -/
theorem messages_newest (keeps : outbox.Keeps sent) (count : Nat) :
    (outbox.newest count).messages = sent.reverse.take (min count capacity) := by
  rw [Outbox.newest, keeps.recent, List.take_take]

/-- The messages that are kept have the last numbers that were given, the newest one
first. -/
theorem seq_recent (keeps : outbox.Keeps sent) {index : Nat} {message : Message}
    (place : outbox.recent[index]? = some message) :
    index < sent.length ∧ message.seq = UInt16.ofNat (sent.length - 1 - index) := by
  rw [keeps.recent, List.getElem?_take] at place
  split at place
  · have inside : index < sent.length := by
      have some := (List.getElem?_eq_some_iff.mp place).1
      rwa [List.length_reverse] at some
    rw [List.getElem?_reverse inside] at place
    exact ⟨inside, keeps.numbers _ message place⟩
  · cases place

end Keeps

/-! ## Calls -/

/-- A message is handed to an outbox, to be numbered and kept or to be sent as well. -/
inductive Call where
  | push (code : UInt8) (body : Bytes)
  | send (code : UInt8) (body : Bytes)
deriving Repr, DecidableEq

namespace Call

/-- The type of the message that is handed in. -/
def code : Call → UInt8
  | push code _ | send code _ => code

/-- The body of the message that is handed in. -/
def body : Call → Bytes
  | push _ body | send _ body => body

/-- The message is one that a datagram can carry: its type is known and its length fits
the length field. -/
structure Valid (call : Call) : Prop where
  known : Command.isKnown call.code = true
  fits : call.body.length ≤ 65534

end Call

/-- What a call makes of an outbox. -/
def serve (outbox : Outbox) : Call → Outbox
  | .push code body => outbox.push code body
  | .send code body => (outbox.send code body).2

/-- A fresh outbox after a row of calls. -/
def after (calls : List Call) : Outbox := calls.foldl serve empty

/-- The messages of a row of calls, oldest first.  Each has the number of its call, counted
from zero and on the ring of sixteen bits. -/
def issued (calls : List Call) : List Message :=
  calls.mapIdx fun index call => ⟨UInt16.ofNat index, call.code, call.body⟩

variable {calls : List Call} {call : Call}

theorem serve_eq (outbox : Outbox) (call : Call) :
    outbox.serve call = outbox.push call.code call.body := by
  cases call with
  | push code body => rfl
  | send code body => rfl

theorem after_concat (calls : List Call) (call : Call) :
    after (calls ++ [call]) = (after calls).push call.code call.body := by
  rw [after, List.foldl_append, ← after]
  exact serve_eq _ call

theorem length_issued (calls : List Call) : (issued calls).length = calls.length :=
  List.length_mapIdx

theorem issued_concat (calls : List Call) (call : Call) :
    issued (calls ++ [call]) =
      issued calls ++ [⟨UInt16.ofNat calls.length, call.code, call.body⟩] :=
  List.mapIdx_concat

/-- Each message that is issued is one that was handed in. -/
theorem exists_of_mem_issued {message : Message} (member : message ∈ issued calls) :
    ∃ call ∈ calls, message.code = call.code ∧ message.body = call.body := by
  obtain ⟨index, inside, rfl⟩ := List.mem_mapIdx.mp member
  exact ⟨calls[index], List.getElem_mem inside, rfl, rfl⟩

theorem keeps_after (calls : List Call) : (after calls).Keeps (issued calls) := by
  -- On the calls, the last one taken off: it gets the number of those before it.
  induction calls using List.reverseRecOn with
  | nil => exact .empty
  | append_singleton calls call inductionHypothesis =>
      have pushed := inductionHypothesis.push call.code call.body
      rw [inductionHypothesis.next, length_issued] at pushed
      rw [after_concat, issued_concat]
      exact pushed

/-! ## What is remembered and sent -/

/-- What an outbox knows after a row of calls. -/
structure Remembers (calls : List Call) (outbox : Outbox) : Prop where
  next : outbox.nextSeq.toNat = calls.length % 65536
  /-- The newest five messages are kept, newest first, or all if there are fewer. -/
  recent : outbox.recent = (issued calls).reverse.take (min calls.length 5)
  stored : outbox.stored = min calls.length 5
  /-- The numbers of neighbours follow each other, also from 65535 to 0. -/
  consecutive : ∀ index newer older, outbox.recent[index]? = some newer →
    outbox.recent[index + 1]? = some older → newer.seq = older.seq + 1
  /-- The number of a message is that of its call. -/
  numbers : ∀ index message, (issued calls)[index]? = some message →
    message.seq.toNat = index % 65536
  /-- Nothing is sent again only if nothing is asked for or nothing was sent. -/
  silent : ∀ retry, outbox.resend retry = none ↔ retry = 0 ∨ calls = []

/-- There are never fewer messages to take than these. -/
theorem take_issued (calls : List Call) (count : Nat) :
    (issued calls).reverse.take (min calls.length count) = (issued calls).reverse.take count := by
  rw [List.take_eq_take_iff, List.length_reverse, length_issued]
  omega

theorem recent_eq_nil_iff : (after calls).recent = [] ↔ calls = [] := by
  rw [(keeps_after calls).recent, List.take_eq_nil_iff, List.reverse_eq_nil_iff,
    ← List.length_eq_zero_iff, length_issued, List.length_eq_zero_iff]
  exact or_iff_right (by decide)

theorem remembers_after (calls : List Call) : (after calls).Remembers calls := by
  have keeps := keeps_after calls
  refine ⟨?_, ?_, ?_, fun index newer older first second => ?_, fun index message place => ?_,
    fun retry => ?_⟩
  · rw [keeps.next, length_issued, UInt16.toNat_ofNat']
  · rw [take_issued]
    exact keeps.recent
  · rw [keeps.stored, length_issued, Nat.min_comm]
    rfl
  · obtain ⟨-, newer⟩ := keeps.seq_recent first
    obtain ⟨inside, older⟩ := keeps.seq_recent second
    have next : (issued calls).length - 1 - index =
        (issued calls).length - 1 - (index + 1) + 1 := by omega
    rw [newer, older, next, UInt16.ofNat_add]
    rfl
  · rw [keeps.numbers index message place, UInt16.toNat_ofNat']
  · rw [resend_eq_none_iff, recent_eq_nil_iff]

/-- A datagram with some of the newest messages reads back as these. -/
theorem parse_newest (valid : ∀ call ∈ calls, call.Valid) (several : calls ≠ []) {count : Nat}
    (positive : 0 < count) (most : count ≤ capacity) :
    Bundle.parse ((after calls).newest count).encode none =
      .ok ⟨(issued calls).reverse.take (min calls.length count)⟩ := by
  have messages : ((after calls).newest count).messages = (issued calls).reverse.take count := by
    rw [(keeps_after calls).messages_newest, Nat.min_eq_left most]
  have length : ((issued calls).reverse.take count).length = min count calls.length := by
    rw [List.length_take, List.length_reverse, length_issued]
  have nonempty := List.length_pos_iff.mpr several
  have sound : ∀ message ∈ (issued calls).reverse.take count, message.Valid := by
    intro message member
    obtain ⟨call, handedIn, code, body⟩ :=
      exists_of_mem_issued (List.mem_reverse.mp (List.mem_of_mem_take member))
    obtain ⟨known, fits⟩ := valid call handedIn
    exact ⟨code ▸ known, body ▸ fits⟩
  have read := Bundle.parse_encode (List.length_pos_iff.mp (by omega))
    (Nat.le_trans (length ▸ Nat.min_le_left ..) (Nat.le_trans most (by decide))) sound none
  -- With no number to compare with, every message is fresh.
  have fresh : ((issued calls).reverse.take count).takeWhile (Bundle.isFresh none) =
      (issued calls).reverse.take count := List.takeWhile_eq_self_iff.mpr fun _ _ => rfl
  rw [fresh, ← messages] at read
  rw [take_issued, ← messages]
  exact read

/-- The ring of an outbox.  After any row of calls it remembers the newest messages under
their numbers; and when all messages are such that a datagram can carry them, the datagram
of a message that is sent reads back as the newest three, and what is sent again as three
for each request, but no more than five and no more than there are. -/
theorem ring (calls : List Call) :
    (after calls).Remembers calls ∧ ((∀ call ∈ calls, call.Valid) →
      (∀ earlier code body, calls = earlier ++ [.send code body] →
        Bundle.parse ((after earlier).send code body).1 none =
          .ok ⟨(issued calls).reverse.take (min calls.length 3)⟩) ∧
      ∀ retry datagram, (after calls).resend retry = some datagram →
        Bundle.parse datagram none =
          .ok ⟨(issued calls).reverse.take (min calls.length (min (3 * retry) 5))⟩) := by
  refine ⟨remembers_after calls, fun valid => ⟨?_, ?_⟩⟩
  · rintro earlier code body rfl
    have sends : ((after earlier).send code body).1 =
        ((after (earlier ++ [.send code body])).newest sendCount).encode := by
      rw [after_concat]
      rfl
    rw [sends]
    exact parse_newest valid (List.append_ne_nil_of_right_ne_nil _ (List.cons_ne_nil _ _))
      (by decide) (by decide)
  · intro retry datagram again
    obtain ⟨free, rfl⟩ := resend_eq_some_iff.mp again
    rw [not_or, recent_eq_nil_iff, ← resendCount_eq_zero_iff] at free
    exact parse_newest valid free.2 (Nat.pos_of_ne_zero free.1) (resendCount_le retry)

/-- As many messages as there are numbers. -/
def lap : List Call :=
  List.replicate 65534 (.push 0x07 []) ++ [.push 0x07 [1]] ++ [.push 0x08 [2]]

/-- The next message has the number 0, and its datagram carries those with the numbers
65535 and 65534 too. -/
theorem ring_lap :
    (∀ call ∈ lap ++ [.send 0x12 [3]], call.Valid) ∧
      (after (lap ++ [.send 0x12 [3]])).nextSeq.toNat = 1 ∧
      Bundle.parse ((after lap).send 0x12 [3]).1 none =
        .ok ⟨[⟨0, 0x12, [3]⟩, ⟨65535, 0x08, [2]⟩, ⟨65534, 0x07, [1]⟩]⟩ := by
  have valid : ∀ call ∈ lap ++ [.send 0x12 [3]], call.Valid := by
    intro call member
    simp only [lap, List.mem_append, List.mem_replicate, List.mem_singleton] at member
    obtain ((⟨-, rfl⟩ | rfl) | rfl) | rfl := member
    all_goals exact ⟨by decide, by decide⟩
  obtain ⟨remembers, sends⟩ := ring (lap ++ [.send 0x12 [3]])
  have length : lap.length = 65536 := by
    rw [lap, List.length_append, List.length_append, List.length_replicate,
      List.length_singleton, List.length_singleton]
  have read := (sends valid).1 lap 0x12 [3] rfl
  refine ⟨valid, ?_, ?_⟩
  · rw [remembers.next, List.length_append, length, List.length_singleton]
  · rw [read, take_issued, issued_concat, length, lap, issued_concat, issued_concat,
      List.length_append, List.length_replicate]
    simp only [List.reverse_append, List.reverse_singleton, List.singleton_append,
      List.take_succ_cons, List.take_zero]
    rfl

end Netplay.Outbox
