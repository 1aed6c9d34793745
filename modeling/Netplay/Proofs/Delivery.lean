/-
Module: Netplay.Proofs.Delivery
Purpose: Messages over a network that loses, repeats and reorders datagrams:
  what one outbox sends, one inbox takes in in order and at most once.
Main exports:
  Datagram, Link, Link.send, Link.resend, Link.deliver, Link.Reached, Link.Sends,
  Link.Receives, Link.awaited_deliver, Link.delivery
-/
import Mathlib.Data.List.Basic
import Mathlib.Data.List.TakeWhile
import Netplay.Proofs.OutboundRing
import Netplay.Wire.Inbox

namespace Netplay

/-- A datagram on its way, and the number of its newest message, counted from
the first message sent. -/
structure Datagram where
  data : Bytes
  newest : Nat
deriving Repr, Inhabited, DecidableEq

/-- The messages that are taken in from a datagram. -/
def Arrival.accepted : Arrival → List Accepted
  | .messages accepted => accepted
  | .rejected _ | .retransmitRequest _ => []

/-- A sender, a network and a receiver. -/
structure Link where
  outbox : Outbox
  /-- All messages sent, in order. -/
  sent : List Message
  /-- All datagrams handed to the network. -/
  flown : List Datagram
  inbox : Inbox
  /-- All messages taken in, in order, each with its number counted from the
  first message sent. -/
  taken : List (Nat × Accepted)
  /-- All datagrams that have arrived. -/
  arrived : List Datagram

namespace Link

/-- Send a message. -/
def send (link : Link) (code : UInt8) (body : Bytes) : Link :=
  { link with
    outbox := (link.outbox.send code body).2
    sent := link.sent ++ [⟨link.outbox.nextSeq, code, body⟩]
    flown := link.flown ++ [⟨(link.outbox.send code body).1, link.sent.length⟩] }

/-- Send recent messages again. -/
def resend (link : Link) (retry : Nat) : Link :=
  match link.outbox.resend retry with
  | none => link
  | some data =>
      { link with flown := link.flown ++ [⟨data, link.sent.length - 1⟩] }

/-- Which message of all that were sent has the number `seq` in a datagram whose
newest one is number `newest`. -/
def place (newest : Nat) (seq : Sequence) : Nat :=
  newest - (UInt16.ofNat newest - seq).toNat

/-- A datagram arrives. -/
def deliver (link : Link) (datagram : Datagram) : Link :=
  { link with
    inbox := (link.inbox.receive datagram.data).1
    taken := link.taken ++ (link.inbox.receive datagram.data).2.accepted.map
      fun accepted => (place datagram.newest accepted.message.seq, accepted)
    arrived := link.arrived ++ [datagram] }

/-- The newest message taken in. -/
def newest? (taken : List (Nat × Accepted)) : Option Nat :=
  taken.getLast?.map (·.1)

/-- The newest message of the datagram lies less than half the ring ahead of the
newest one taken in, and at most half the ring behind it. -/
def Near (link : Link) (datagram : Datagram) : Prop :=
  ∀ last, newest? link.taken = some last →
    datagram.newest < last + 0x8000 ∧ last ≤ datagram.newest + 0x8000

/-- The first datagram comes from one of the first three sends, and the newest
message of each is at most three ahead of the newest one taken in. -/
def Close (link : Link) (datagram : Datagram) : Prop :=
  link.Near datagram ∧ (newest? link.taken = none → datagram.newest ≤ 2) ∧
    ∀ last, newest? link.taken = some last → datagram.newest ≤ last + 3

/-- The links that some run leads to.  The sender begins with nothing sent and
the receiver with nothing taken in.  Any datagram that was ever handed to the
network may arrive at any time and any number of times, if the condition admits
it. -/
inductive Reached (admits : Link → Datagram → Prop) : Link → Prop where
  | start (inbox : Inbox) (fresh : inbox.last = none) :
      Reached admits ⟨.empty, [], [], inbox, [], []⟩
  | send {link : Link} {code : UInt8} {body : Bytes} (reached : Reached admits link)
      (known : Command.isKnown code = true) (fits : body.length ≤ 65534) :
      Reached admits (link.send code body)
  | resend {link : Link} (reached : Reached admits link) (retry : Nat) :
      Reached admits (link.resend retry)
  | deliver {link : Link} {datagram : Datagram} (reached : Reached admits link)
      (flown : datagram ∈ link.flown) (admitted : admits link datagram) :
      Reached admits (link.deliver datagram)

/-! ## The sender -/

/-- A datagram carries the newest messages up to one of them, three at least and
five at most, or all if there are fewer. -/
structure Carried (sent : List Message) (datagram : Datagram) : Prop where
  begun : datagram.newest < sent.length
  data : ∃ count, 3 ≤ count ∧ count ≤ 5 ∧
    datagram.data =
      Bundle.encode ⟨(sent.take (datagram.newest + 1)).reverse.take count⟩

/-- Messages are numbered in order, the newest ones are kept, and every datagram
carries some of them. -/
structure Sends (link : Link) : Prop where
  next : link.outbox.nextSeq = UInt16.ofNat link.sent.length
  recent : link.outbox.recent = link.sent.reverse.take Outbox.capacity
  numbered : ∀ (index : Nat) (message : Message),
    link.sent[index]? = some message → message.seq = UInt16.ofNat index
  valid : ∀ message ∈ link.sent, message.Valid
  carried : ∀ datagram ∈ link.flown, Carried link.sent datagram

/-- What a datagram carries does not change when more is sent. -/
theorem Carried.append {sent : List Message} {datagram : Datagram}
    (carried : Carried sent datagram) (more : List Message) :
    Carried (sent ++ more) datagram := by
  obtain ⟨begun, count, least, most, data⟩ := carried
  refine ⟨?_, count, least, most, ?_⟩
  · rw [List.length_append]
    omega
  · rw [data, List.take_append_of_le_length begun]

theorem Sends.keeps {link : Link} (sends : link.Sends) : link.outbox.Keeps link.sent :=
  ⟨sends.next, sends.recent, sends.numbered⟩

/-- A send carries the new message and the two before it. -/
theorem Sends.carried_send {link : Link} (sends : link.Sends) (code : UInt8)
    (body : Bytes) :
    Carried (link.sent ++ [⟨link.outbox.nextSeq, code, body⟩])
      ⟨(link.outbox.send code body).1, link.sent.length⟩ := by
  have all : (link.sent ++ [Message.mk link.outbox.nextSeq code body]).take
      (link.sent.length + 1) = link.sent ++ [Message.mk link.outbox.nextSeq code body] :=
    List.take_of_length_le (by simp)
  have written : (link.outbox.send code body).1 =
      Bundle.encode ⟨(link.outbox.push code body).recent.take 3⟩ := rfl
  refine ⟨by simp, 3, Nat.le_refl 3, by decide, ?_⟩
  rw [written, (sends.keeps.push code body).recent, all, List.take_take]
  rfl

theorem Sends.send {link : Link} (sends : link.Sends) {code : UInt8} {body : Bytes}
    (known : Command.isKnown code = true) (fits : body.length ≤ 65534) :
    (link.send code body).Sends := by
  obtain ⟨next, recent, numbered⟩ := sends.keeps.push code body
  refine ⟨next, recent, numbered, ?_, ?_⟩
  · intro message member
    rcases List.mem_append.mp member with old | new
    · exact sends.valid message old
    · rw [List.mem_singleton.mp new]
      exact ⟨known, fits⟩
  · intro datagram member
    rcases List.mem_append.mp member with old | new
    · exact (sends.carried datagram old).append _
    · rw [List.mem_singleton.mp new]
      exact sends.carried_send code body

theorem Sends.resend {link : Link} (sends : link.Sends) (retry : Nat) :
    (link.resend retry).Sends := by
  unfold Link.resend
  cases again : link.outbox.resend retry with
  | none => exact sends
  | some data =>
      refine ⟨sends.next, sends.recent, sends.numbered, sends.valid, ?_⟩
      intro datagram member
      rcases List.mem_append.mp member with old | new
      · exact sends.carried datagram old
      · rw [List.mem_singleton.mp new]
        obtain ⟨free, rfl⟩ := Outbox.resend_eq_some_iff.mp again
        obtain ⟨wanted, several⟩ := not_or.mp free
        have sent : link.sent ≠ [] := by
          intro none
          rw [sends.recent, none] at several
          exact several rfl
        have length := List.length_pos_iff.mpr sent
        have most := Outbox.resendCount_le retry
        have least : 3 ≤ Outbox.resendCount retry := by
          unfold Outbox.resendCount Outbox.capacity
          omega
        refine ⟨Nat.sub_lt length Nat.one_pos, _, least, most, ?_⟩
        rw [Nat.sub_add_cancel length, List.take_length, ← Nat.min_eq_left most,
          ← sends.keeps.messages_newest, Nat.min_eq_left most]

/-! ## The receiver -/

/-- The first message that is later than all those taken in. -/
def awaited (taken : List (Nat × Accepted)) : Nat :=
  (newest? taken).elim 0 (· + 1)

/-- The messages taken in are messages that were sent, in order and none twice.
A gap is flagged at each one whose predecessor is not among them, except at the
first one. -/
structure Receives (sent : List Message) (last : Option Sequence)
    (taken : List (Nat × Accepted)) : Prop where
  last : last = (newest? taken).map UInt16.ofNat
  increasing : (taken.map (·.1)).Pairwise (· < ·)
  faithful : ∀ entry ∈ taken, sent[entry.1]? = some entry.2.message
  gaps : ∀ entry ∈ taken, (entry.2.gap = true ↔
    taken.head? ≠ some entry ∧ ∀ other ∈ taken, other.1 + 1 ≠ entry.1)

theorem newest?_append (taken : List (Nat × Accepted)) (entry : Nat × Accepted) :
    newest? (taken ++ [entry]) = some entry.1 := by
  rw [newest?, List.getLast?_append, List.getLast?_singleton]
  rfl

theorem newest?_eq_none {taken : List (Nat × Accepted)} :
    newest? taken = none ↔ taken = [] := by
  rw [newest?, Option.map_eq_none_iff, List.getLast?_eq_none_iff]

/-- The newest message taken in is one of them, and none is newer. -/
theorem Receives.newest {sent : List Message} {last : Option Sequence}
    {taken : List (Nat × Accepted)} (receives : Receives sent last taken) {newest : Nat}
    (isNewest : newest? taken = some newest) :
    (∃ entry ∈ taken, entry.1 = newest) ∧ ∀ entry ∈ taken, entry.1 ≤ newest := by
  obtain ⟨entry, isLast, rfl⟩ := Option.map_eq_some_iff.mp isNewest
  obtain ⟨earlier, rfl⟩ := List.getLast?_eq_some_iff.mp isLast
  constructor
  · exact ⟨entry, List.mem_append_right _ List.mem_cons_self, rfl⟩
  · intro other member
    have increasing := receives.increasing
    rw [List.map_append, List.pairwise_append] at increasing
    rcases List.mem_append.mp member with old | new
    · exact Nat.le_of_lt (increasing.2.2 _ (List.mem_map_of_mem old) _
        (List.mem_cons_self))
    · exact Nat.le_of_eq (congrArg Prod.fst (List.mem_singleton.mp new))

/-- More may be sent. -/
theorem Receives.append {sent : List Message} {last : Option Sequence}
    {taken : List (Nat × Accepted)} (receives : Receives sent last taken)
    (more : List Message) : Receives (sent ++ more) last taken := by
  constructor
  · exact receives.last
  · exact receives.increasing
  · intro entry member
    have inside := receives.faithful entry member
    rw [List.getElem?_append_left (List.getElem?_eq_some_iff.mp inside).1]
    exact inside
  · exact receives.gaps

/-- A message is accepted when no newer one was. -/
theorem accept_of_fresh {inbox : Inbox} {message : Message}
    (fresh : (inbox.last.any fun last => !Sequence.isNewer message.seq last) = false) :
    inbox.accept message =
      (⟨some message.seq, inbox.last, inbox.retries⟩,
        some ⟨message, inbox.last.any fun last => last + 1 ≠ message.seq⟩) := by
  simp only [Inbox.accept, fresh, Bool.false_eq_true, if_false]

/-- A message can be next: it is later than all those taken in, and less than
half the ring ahead. -/
def Later (taken : List (Nat × Accepted)) (index : Nat) : Prop :=
  ∀ last, newest? taken = some last → last < index ∧ index < last + 0x8000

theorem Receives.fresh {sent : List Message} {last : Option Sequence}
    {taken : List (Nat × Accepted)} (receives : Receives sent last taken) {index : Nat}
    (later : Later taken index) :
    (last.any fun last => !Sequence.isNewer (UInt16.ofNat index) last) = false := by
  rw [receives.last]
  cases newest : newest? taken with
  | none => rfl
  | some last =>
      obtain ⟨after, near⟩ := later last newest
      have newer := Sequence.isNewer_ofNat near (show last ≤ index + 0x8000 by omega)
      simp only [Option.map_some, Option.any_some, newer, after, decide_true,
        Bool.not_true]

theorem Receives.before {sent : List Message} {last : Option Sequence}
    {taken : List (Nat × Accepted)} (receives : Receives sent last taken) {index : Nat}
    (later : Later taken index) : ∀ other ∈ taken, other.1 < index := by
  intro other member
  cases newest : newest? taken with
  | none =>
      rw [newest?_eq_none.mp newest] at member
      cases member
  | some last =>
      exact Nat.lt_of_le_of_lt ((receives.newest newest).2 other member)
        (later last newest).1

/-- The test for a gap looks at the last number only, and finds whether the
predecessor was taken in. -/
theorem Receives.gap {sent : List Message} {last : Option Sequence}
    {taken : List (Nat × Accepted)} (receives : Receives sent last taken) {index : Nat}
    (later : Later taken index) :
    (last.any fun last => last + 1 ≠ UInt16.ofNat index) = true ↔
      taken ≠ [] ∧ ∀ other ∈ taken, other.1 + 1 ≠ index := by
  rw [receives.last]
  cases newest : newest? taken with
  | none =>
      rw [newest?_eq_none.mp newest]
      simp
  | some last =>
      obtain ⟨after, near⟩ := later last newest
      obtain ⟨⟨entry, member, rfl⟩, largest⟩ := receives.newest newest
      have succ := Sequence.succ_ofNat after (show index < entry.1 + 65536 by omega)
      simp only [Option.map_some, Option.any_some, decide_eq_true_eq, ne_eq, succ]
      constructor
      · intro gap
        refine ⟨List.ne_nil_of_mem member, ?_⟩
        intro other otherMember next
        have bound := largest other otherMember
        omega
      · intro missing
        exact missing.2 entry member

/-- The gaps flagged stay right when a later message is taken in. -/
theorem Receives.gaps_append {sent : List Message} {last : Option Sequence}
    {taken : List (Nat × Accepted)} (receives : Receives sent last taken) {index : Nat}
    (later : Later taken index) {accepted : Accepted}
    (flagged : accepted.gap = true ↔
      taken ≠ [] ∧ ∀ other ∈ taken, other.1 + 1 ≠ index) :
    ∀ entry ∈ taken ++ [(index, accepted)], (entry.2.gap = true ↔
      (taken ++ [(index, accepted)]).head? ≠ some entry ∧
        ∀ other ∈ taken ++ [(index, accepted)], other.1 + 1 ≠ entry.1) := by
  have before := receives.before later
  intro entry member
  rcases List.mem_append.mp member with old | new
  · -- the new message comes too late to be the predecessor of an old one
    have several : taken ≠ [] := List.ne_nil_of_mem old
    have notNext : index + 1 ≠ entry.1 :=
      Nat.ne_of_gt (Nat.lt_succ_of_lt (before entry old))
    rw [receives.gaps entry old, List.head?_append_of_ne_nil _ several,
      List.forall_mem_append, List.forall_mem_singleton, and_iff_left notNext]
  · rw [List.mem_singleton.mp new, flagged, List.forall_mem_append,
      List.forall_mem_singleton, and_iff_left (Nat.succ_ne_self index)]
    apply and_congr_left
    intro _
    cases taken with
    | nil => simp
    | cons first others =>
        have notFirst : first.1 ≠ index := Nat.ne_of_lt (before first List.mem_cons_self)
        constructor
        · intro _ isFirst
          exact notFirst (congrArg Prod.fst (Option.some.inj isFirst))
        · intro _
          exact List.cons_ne_nil first others

/-- A message later than all those taken in is taken in. -/
theorem Receives.accept {sent : List Message} {inbox : Inbox}
    {taken : List (Nat × Accepted)} {index : Nat} {message : Message}
    (receives : Receives sent inbox.last taken)
    (placed : sent[index]? = some message)
    (number : message.seq = UInt16.ofNat index) (later : Later taken index) :
    ∃ next gap, inbox.accept message = (next, some ⟨message, gap⟩) ∧
      Receives sent next.last (taken ++ [(index, ⟨message, gap⟩)]) := by
  have fresh := receives.fresh later
  have flagged := receives.gap later
  rw [← number] at fresh flagged
  refine ⟨_, _, accept_of_fresh fresh, ?_⟩
  constructor
  · rw [newest?_append, number]
    rfl
  · rw [List.map_append, List.pairwise_append]
    refine ⟨receives.increasing, List.pairwise_singleton _ _, ?_⟩
    intro earlier member last isLast
    obtain ⟨other, otherMember, rfl⟩ := List.mem_map.mp member
    rw [List.mem_singleton.mp isLast]
    exact receives.before later other otherMember
  · intro entry member
    rcases List.mem_append.mp member with old | new
    · exact receives.faithful entry old
    · rw [List.mem_singleton.mp new]
      exact placed
  · exact receives.gaps_append later flagged

/-- Consecutive messages later than all those taken in are all taken in. -/
theorem Receives.acceptAll {sent : List Message} {number : Sequence → Nat}
    (numbered : ∀ (index : Nat) (message : Message),
      sent[index]? = some message → message.seq = UInt16.ofNat index)
    {messages : List Message} {inbox : Inbox} {taken : List (Nat × Accepted)}
    (receives : Receives sent inbox.last taken) {start : Nat}
    (consecutive : ∀ (index : Nat) (message : Message),
      messages[index]? = some message → sent[start + index]? = some message)
    (counted : ∀ index, index < messages.length →
      number (UInt16.ofNat (start + index)) = start + index)
    (later : messages ≠ [] → Later taken start) :
    Receives sent (inbox.acceptAll messages).1.last
        (taken ++ (inbox.acceptAll messages).2.map
          fun accepted => (number accepted.message.seq, accepted)) ∧
      ((inbox.acceptAll messages).2.map fun accepted => number accepted.message.seq) =
        List.range' start messages.length := by
  induction messages generalizing inbox taken start with
  | nil =>
      rw [Inbox.acceptAll, List.map_nil, List.append_nil]
      exact ⟨receives, rfl⟩
  | cons message others inductionHypothesis =>
      have placed : sent[start]? = some message := consecutive 0 message rfl
      have seq := numbered start message placed
      have place : number message.seq = start := by
        rw [seq]
        exact counted 0 (Nat.zero_lt_succ _)
      obtain ⟨next, gap, accepted, received⟩ :=
        receives.accept placed seq (later (List.cons_ne_nil message others))
      have consecutiveRest : ∀ (index : Nat) (other : Message),
          others[index]? = some other → sent[start + 1 + index]? = some other := by
        intro index other here
        rw [Nat.add_assoc, Nat.add_comm 1 index]
        exact consecutive (index + 1) other here
      have countedRest : ∀ index, index < others.length →
          number (UInt16.ofNat (start + 1 + index)) = start + 1 + index := by
        intro index inside
        rw [Nat.add_assoc, Nat.add_comm 1 index]
        exact counted (index + 1) (Nat.succ_lt_succ inside)
      have laterRest : Later (taken ++ [(start, ⟨message, gap⟩)]) (start + 1) := by
        intro last isNewest
        rw [newest?_append] at isNewest
        cases isNewest
        omega
      obtain ⟨rest, indices⟩ :=
        inductionHypothesis received consecutiveRest countedRest fun _ => laterRest
      simp only [Inbox.acceptAll, accepted, Option.toList_some, List.singleton_append,
        List.map_cons, place]
      constructor
      · rw [List.append_cons]
        exact rest
      · rw [indices, List.length_cons, List.range'_succ]

/-- What is taken in from a datagram that can be read. -/
theorem receive_of_parse {inbox : Inbox} {data : Bytes} {messages : List Message}
    (readable : Bundle.parse data inbox.last = .ok ⟨messages⟩) :
    (inbox.receive data).1.last =
        (Inbox.acceptAll { inbox with retries := 0 } messages.reverse).1.last ∧
      (inbox.receive data).2.accepted =
        (Inbox.acceptAll { inbox with retries := 0 } messages.reverse).2 := by
  simp only [Inbox.receive, readable]
  cases messages with
  | nil => exact ⟨rfl, rfl⟩
  | cons message others => exact ⟨rfl, rfl⟩

/-- Reading newest first up to the first message that is not fresh leaves the
messages that are later than all those taken in. -/
theorem takeWhile_isFresh {messages : List Message} {newest : Nat} {last : Option Nat}
    (numbered : ∀ (index : Nat) (message : Message),
      messages[index]? = some message → message.seq = UInt16.ofNat (newest - index))
    (complete : messages.length ≤ newest + 1)
    (near : ∀ seen, last = some seen → newest < seen + 0x8000 ∧ seen ≤ newest + 0x8000) :
    messages.takeWhile (Bundle.isFresh (last.map UInt16.ofNat)) =
      messages.take (newest + 1 - last.elim 0 (· + 1)) := by
  cases last with
  | none =>
      rw [Option.elim_none, Nat.sub_zero, List.take_of_length_le complete,
        List.takeWhile_eq_self_iff]
      exact fun _ _ => rfl
  | some seen =>
      induction messages generalizing newest with
      | nil => rw [List.takeWhile_nil, List.take_nil]
      | cons message older inductionHypothesis =>
          obtain ⟨ahead, behind⟩ := near seen rfl
          have number : message.seq = UInt16.ofNat newest := numbered 0 message rfl
          have isFresh : Bundle.isFresh ((some seen).map UInt16.ofNat) message =
              decide (seen < newest) := by
            rw [← Sequence.isNewer_ofNat ahead behind, ← number]
            exact Bool.not_not _
          by_cases after : seen < newest
          · have count : newest + 1 - (some seen).elim 0 (· + 1) =
                (newest - 1 + 1 - (some seen).elim 0 (· + 1)) + 1 := by
              rw [Option.elim_some]
              omega
            rw [List.takeWhile_cons_of_pos (by rw [isFresh, decide_eq_true after]), count,
              List.take_succ_cons]
            apply congrArg (message :: ·)
            apply inductionHypothesis
            · intro index other here
              rw [numbered (index + 1) other here]
              congr 1
              omega
            · rw [List.length_cons] at complete
              omega
            · intro other same
              cases same
              omega
          · have count : newest + 1 - (some seen).elim 0 (· + 1) = 0 := by
              rw [Option.elim_some]
              omega
            rw [List.takeWhile_cons_of_neg (by rw [isFresh, decide_eq_false after]; exact
              Bool.false_ne_true), count, List.take_zero]

/-- Counting back from the newest message finds the messages of a datagram. -/
theorem getElem?_newest_first {sent : List Message} {newest count index : Nat}
    (begun : newest < sent.length) {message : Message}
    (here : ((sent.take (newest + 1)).reverse.take count)[index]? = some message) :
    index ≤ newest ∧ sent[newest - index]? = some message := by
  have length : (sent.take (newest + 1)).length = newest + 1 := by
    rw [List.length_take]
    omega
  rw [List.getElem?_take] at here
  split at here
  · have inside : index < (sent.take (newest + 1)).length := by
      have some := (List.getElem?_eq_some_iff.mp here).1
      rw [List.length_reverse] at some
      exact some
    rw [List.getElem?_reverse inside, length, Nat.add_sub_cancel,
      List.getElem?_take_of_lt (by omega)] at here
    exact ⟨by omega, here⟩
  · cases here

/-- The `count` messages up to number `newest`, oldest first. -/
def window (sent : List Message) (newest count : Nat) : List Message :=
  (sent.take (newest + 1)).drop (newest + 1 - count)

theorem length_window {sent : List Message} {newest count : Nat}
    (begun : newest < sent.length) (few : count ≤ newest + 1) :
    (window sent newest count).length = count := by
  rw [window, List.length_drop, List.length_take]
  omega

theorem reverse_window {sent : List Message} {newest : Nat}
    (begun : newest < sent.length) (count : Nat) :
    (window sent newest count).reverse =
      (sent.take (newest + 1)).reverse.take count := by
  have length : (sent.take (newest + 1)).length = newest + 1 := by
    rw [List.length_take]
    omega
  rw [window, List.take_reverse, length]

theorem getElem?_window {sent : List Message} {newest count index : Nat}
    {message : Message} (here : (window sent newest count)[index]? = some message) :
    sent[newest + 1 - count + index]? = some message := by
  rw [window, List.getElem?_drop, List.getElem?_take] at here
  split at here
  · exact here
  · cases here

/-- A datagram reads as its messages that are later than the newest one seen. -/
theorem Sends.parse {link : Link} (sends : link.Sends) {datagram : Datagram}
    (carried : Carried link.sent datagram) {last : Option Nat}
    (near : ∀ seen, last = some seen →
      datagram.newest < seen + 0x8000 ∧ seen ≤ datagram.newest + 0x8000) :
    ∃ count, min (datagram.newest + 1 - last.elim 0 (· + 1)) 3 ≤ count ∧
      count ≤ datagram.newest + 1 - last.elim 0 (· + 1) ∧ count ≤ 5 ∧
      Bundle.parse datagram.data (last.map UInt16.ofNat) =
        .ok ⟨(window link.sent datagram.newest count).reverse⟩ := by
  obtain ⟨begun, count, least, most, data⟩ := carried
  refine ⟨min (datagram.newest + 1 - last.elim 0 (· + 1)) count, by omega, by omega,
    by omega, ?_⟩
  have length : ((link.sent.take (datagram.newest + 1)).reverse.take count).length =
      min count (datagram.newest + 1) := by
    rw [List.length_take, List.length_reverse, List.length_take]
    omega
  have several : (link.sent.take (datagram.newest + 1)).reverse.take count ≠ [] := by
    apply List.ne_nil_of_length_pos
    omega
  have few : ((link.sent.take (datagram.newest + 1)).reverse.take count).length ≤
      Bundle.maxMessages := by
    have limit : Bundle.maxMessages = 32 := rfl
    omega
  have complete : ((link.sent.take (datagram.newest + 1)).reverse.take count).length ≤
      datagram.newest + 1 := by omega
  have valid : ∀ message ∈ (link.sent.take (datagram.newest + 1)).reverse.take count,
      message.Valid := by
    intro message member
    apply sends.valid
    exact List.mem_of_mem_take (List.mem_reverse.mp (List.mem_of_mem_take member))
  have kept := takeWhile_isFresh
    (fun index message here =>
      sends.numbered _ message (getElem?_newest_first begun here).2) complete near
  rw [data, Bundle.parse_encode several few valid, kept, List.take_take,
    reverse_window begun]

theorem place_ofNat {newest index : Nat} (older : index ≤ newest)
    (near : newest < index + 65536) : place newest (UInt16.ofNat index) = index := by
  rw [place, UInt16.toNat_sub, UInt16.toNat_ofNat', UInt16.toNat_ofNat']
  omega

/-- A datagram arrives: of its messages, those later than all taken in before
are taken in. -/
theorem Receives.deliver {link : Link} (sends : link.Sends)
    (receives : Receives link.sent link.inbox.last link.taken) {datagram : Datagram}
    (carried : Carried link.sent datagram) (near : link.Near datagram) :
    Receives link.sent (link.deliver datagram).inbox.last (link.deliver datagram).taken ∧
      ∃ count, min (datagram.newest + 1 - awaited link.taken) 3 ≤ count ∧
        count ≤ datagram.newest + 1 - awaited link.taken ∧
        (link.deliver datagram).taken.map (·.1) =
          link.taken.map (·.1) ++ List.range' (datagram.newest + 1 - count) count := by
  obtain ⟨count, least, most, few, parsed⟩ := sends.parse carried near
  have length := length_window carried.begun (Nat.le_trans most (Nat.sub_le _ _))
  rw [← receives.last] at parsed
  obtain ⟨last, accepted⟩ := receive_of_parse parsed
  rw [List.reverse_reverse] at last accepted
  have counted : ∀ index, index < (window link.sent datagram.newest count).length →
      place datagram.newest (UInt16.ofNat (datagram.newest + 1 - count + index)) =
        datagram.newest + 1 - count + index := by
    intro index inside
    apply place_ofNat <;> omega
  have later : window link.sent datagram.newest count ≠ [] →
      Later link.taken (datagram.newest + 1 - count) := by
    intro several seen isNewest
    have positive := List.length_pos_iff.mpr several
    have ahead := (near seen isNewest).1
    rw [isNewest, Option.elim_some] at most
    omega
  have fresh : Receives link.sent (Inbox.last { link.inbox with retries := 0 })
    link.taken := receives
  obtain ⟨received, indices⟩ := fresh.acceptAll sends.numbered
    (fun _ _ => getElem?_window) counted later
  rw [← last, ← accepted] at received
  rw [← accepted, length] at indices
  refine ⟨received, count, least, most, ?_⟩
  rw [← indices, Link.deliver, List.map_append, List.map_map]
  rfl

/-! ## Runs -/

theorem Reached.mono {admits allows : Link → Datagram → Prop}
    (weaker : ∀ link datagram, admits link datagram → allows link datagram) {link : Link}
    (reached : Reached admits link) : Reached allows link := by
  induction reached with
  | start inbox fresh => exact .start inbox fresh
  | send _ known fits inductionHypothesis => exact .send inductionHypothesis known fits
  | resend _ retry inductionHypothesis => exact .resend inductionHypothesis retry
  | deliver _ flown admitted inductionHypothesis =>
      exact .deliver inductionHypothesis flown (weaker _ _ admitted)

/-- What holds of both ends along every run. -/
structure Sound (link : Link) : Prop where
  sends : link.Sends
  receives : Receives link.sent link.inbox.last link.taken

theorem sends_empty (inbox : Inbox) : Sends ⟨.empty, [], [], inbox, [], []⟩ := by
  constructor
  · rfl
  · rfl
  · intro index message here
    cases here
  · intro message member
    cases member
  · intro datagram member
    cases member

theorem receives_empty {inbox : Inbox} (fresh : inbox.last = none) :
    Receives [] inbox.last [] := by
  constructor
  · exact fresh
  · exact List.Pairwise.nil
  · intro entry member
    cases member
  · intro entry member
    cases member

theorem resend_same (link : Link) (retry : Nat) :
    (link.resend retry).sent = link.sent ∧ (link.resend retry).inbox = link.inbox ∧
      (link.resend retry).taken = link.taken ∧
      (link.resend retry).arrived = link.arrived := by
  unfold resend
  split
  · exact ⟨rfl, rfl, rfl, rfl⟩
  · exact ⟨rfl, rfl, rfl, rfl⟩

theorem Sound.resend {link : Link} (sound : link.Sound) (retry : Nat) :
    (link.resend retry).Sound := by
  obtain ⟨sent, inbox, taken, -⟩ := link.resend_same retry
  refine ⟨sound.sends.resend retry, ?_⟩
  rw [sent, inbox, taken]
  exact sound.receives

theorem Sound.deliver {link : Link} (sound : link.Sound) {datagram : Datagram}
    (flown : datagram ∈ link.flown) (near : link.Near datagram) :
    (link.deliver datagram).Sound :=
  ⟨⟨sound.sends.next, sound.sends.recent, sound.sends.numbered, sound.sends.valid,
      sound.sends.carried⟩,
    (sound.receives.deliver sound.sends (sound.sends.carried datagram flown) near).1⟩

theorem Reached.sound {link : Link} (reached : Reached Near link) : link.Sound := by
  induction reached with
  | start inbox fresh => exact ⟨sends_empty inbox, receives_empty fresh⟩
  | send _ known fits inductionHypothesis =>
      exact ⟨inductionHypothesis.sends.send known fits,
        inductionHypothesis.receives.append _⟩
  | resend _ retry inductionHypothesis => exact inductionHypothesis.resend retry
  | deliver _ flown near inductionHypothesis => exact inductionHypothesis.deliver flown near

/-- Behind a datagram the next message to come is later than its newest one. -/
theorem awaited_deliver {link : Link} (sound : link.Sound) {datagram : Datagram}
    (flown : datagram ∈ link.flown) (near : link.Near datagram) :
    awaited (link.deliver datagram).taken =
      max (awaited link.taken) (datagram.newest + 1) := by
  obtain ⟨-, count, least, most, taken⟩ :=
    sound.receives.deliver sound.sends (sound.sends.carried datagram flown) near
  have numbers (taken : List (Nat × Accepted)) :
      awaited taken = (taken.map (·.1)).getLast?.elim 0 (· + 1) := by
    rw [awaited, newest?, List.getLast?_map]
  rw [numbers, taken]
  rcases Nat.eq_zero_or_pos count with nothing | several
  · rw [nothing, List.range'_zero, List.append_nil, ← numbers, Nat.max_eq_left (by omega)]
  · have first : datagram.newest + 1 - count + (count - 1) = datagram.newest := by omega
    obtain ⟨fewer, rfl⟩ := Nat.exists_eq_add_of_lt several
    rw [Nat.zero_add, List.range'_1_concat, ← List.append_assoc, List.getLast?_concat,
      Option.elim_some, Nat.max_eq_right (by omega)]
    omega

/-- No datagram that has arrived has a newest message that is yet to come. -/
theorem Reached.newest {link : Link} (reached : Reached Near link) :
    ∀ datagram ∈ link.arrived, datagram.newest < awaited link.taken := by
  induction reached with
  | start inbox fresh =>
      intro datagram member
      cases member
  | send _ known fits inductionHypothesis => exact inductionHypothesis
  | @resend link _ retry inductionHypothesis =>
      obtain ⟨-, -, taken, arrived⟩ := link.resend_same retry
      rw [taken, arrived]
      exact inductionHypothesis
  | @deliver link datagram reached flown near inductionHypothesis =>
      rw [awaited_deliver reached.sound flown near]
      intro other member
      rcases List.mem_append.mp member with old | new
      · exact Nat.lt_of_lt_of_le (inductionHypothesis other old) (Nat.le_max_left _ _)
      · rw [List.mem_singleton.mp new]
        exact Nat.le_max_right _ _

/-- When nothing is missing so far, the next message to come is the one after as
many as were taken in. -/
theorem awaited_complete {taken : List (Nat × Accepted)}
    (complete : taken.map (·.1) = List.range taken.length) :
    awaited taken = taken.length := by
  rcases List.eq_nil_or_concat taken with none | ⟨earlier, entry, rfl⟩
  · rw [none]
    rfl
  · rw [List.concat_eq_append] at complete ⊢
    rw [List.map_append, List.length_append, List.length_singleton, List.range_succ,
      List.map_singleton] at complete
    have number := List.singleton_inj.mp (List.append_inj' complete rfl).2
    rw [awaited, newest?_append, List.length_append, Option.elim_some, number]
    rfl

/-- When nothing is missing, each message is found at its number. -/
theorem number_of_complete {taken : List (Nat × Accepted)}
    (complete : taken.map (·.1) = List.range taken.length) {index : Nat}
    (inside : index < taken.length) : taken[index].1 = index := by
  have here := List.getElem_of_eq complete (by rw [List.length_map]; exact inside)
  rw [List.getElem_map, List.getElem_range] at here
  exact here

/-- Close datagrams leave nothing out. -/
theorem Reached.complete {link : Link} (reached : Reached Close link) :
    link.taken.map (·.1) = List.range link.taken.length := by
  induction reached with
  | start inbox fresh => rfl
  | send _ known fits inductionHypothesis => exact inductionHypothesis
  | @resend link _ retry inductionHypothesis =>
      rw [(link.resend_same retry).2.2.1]
      exact inductionHypothesis
  | @deliver link datagram reached flown close inductionHypothesis =>
      have sound := (reached.mono fun _ _ close => close.1).sound
      obtain ⟨near, begins, continues⟩ := close
      have carried := sound.sends.carried datagram flown
      obtain ⟨_, count, least, most, taken⟩ :=
        sound.receives.deliver sound.sends carried near
      have length := congrArg List.length taken
      rw [List.length_map, List.length_append, List.length_map, List.length_range'] at length
      have within : datagram.newest ≤ awaited link.taken + 2 := by
        rw [awaited]
        cases newest : newest? link.taken with
        | none => exact begins newest
        | some last => exact continues last newest
      rw [awaited_complete inductionHypothesis] at within least most
      rw [taken, inductionHypothesis, length]
      rcases Nat.eq_zero_or_pos count with nothing | some
      · rw [nothing, List.range'_zero, List.append_nil, Nat.add_zero]
      · have start : datagram.newest + 1 - count = 0 + 1 * link.taken.length := by omega
        rw [List.range_eq_range', List.range_eq_range', start, List.range'_append]

/-- Whatever the network loses, repeats and reorders, the messages taken in are
messages that were sent, in the order in which they were sent and none of them
twice; and a gap is flagged at a message, other than the first one, if and only
if the message sent just before it is not taken in.  Of a datagram that arrives,
the messages that are later than all taken in before are taken in, three of them
at least if there are so many.  When the first datagram comes from one of the
first three sends and none is further ahead than the messages that it repeats,
every message up to the newest one that has arrived is taken in and no gap is
flagged. -/
theorem delivery {link : Link} (reached : Reached Near link) :
    (link.taken.map (·.1)).Pairwise (· < ·) ∧
      (∀ entry ∈ link.taken, link.sent[entry.1]? = some entry.2.message) ∧
      (∀ entry ∈ link.taken, (entry.2.gap = true ↔
        link.taken.head? ≠ some entry ∧ ∀ other ∈ link.taken, other.1 + 1 ≠ entry.1)) ∧
      (∀ datagram ∈ link.flown, link.Near datagram →
        ∃ count, min (datagram.newest + 1 - awaited link.taken) 3 ≤ count ∧
          count ≤ datagram.newest + 1 - awaited link.taken ∧
          (link.deliver datagram).taken.map (·.1) =
            link.taken.map (·.1) ++ List.range' (datagram.newest + 1 - count) count) ∧
      (∀ datagram ∈ link.arrived, datagram.newest < awaited link.taken) ∧
      (Reached Close link →
        link.taken.map (·.1) = List.range link.taken.length ∧
        (∀ datagram ∈ link.arrived, datagram.newest < link.taken.length) ∧
        ∀ entry ∈ link.taken, entry.2.gap = false) := by
  have sound := reached.sound
  obtain ⟨last, increasing, faithful, gaps⟩ := sound.receives
  refine ⟨increasing, faithful, gaps, fun datagram flown near => ?_, reached.newest, ?_⟩
  · exact (sound.receives.deliver sound.sends (sound.sends.carried datagram flown) near).2
  intro close
  have complete := close.complete
  refine ⟨complete, fun datagram arrived => ?_, ?_⟩
  · rw [← awaited_complete complete]
    exact reached.newest datagram arrived
  intro entry member
  rw [Bool.eq_false_iff]
  intro gap
  obtain ⟨notFirst, missing⟩ := (gaps entry member).mp gap
  obtain ⟨index, inside, rfl⟩ := List.mem_iff_getElem.mp member
  cases index with
  | zero =>
      apply notFirst
      rw [List.head?_eq_getElem?]
      exact List.getElem?_eq_getElem inside
  | succ before =>
      have earlier : before < link.taken.length := Nat.lt_of_succ_lt inside
      apply missing _ (List.getElem_mem earlier)
      rw [number_of_complete complete, number_of_complete complete]

/-- Seven messages are sent, and no datagram has arrived. -/
def seven : Link :=
  [0, 1, 2, 3, 4, 5, 6].foldl (fun link letter => link.send 0x07 [letter])
    ⟨.empty, [], [], .empty, [], []⟩

/-- The datagram of one of the seven sends. -/
def seventh (index : Nat) : Datagram := seven.flown.getD index ⟨[], 0⟩

/-- The third datagram arrives, then the last one, and then the third one again. -/
def lossy : Link :=
  ((seven.deliver (seventh 2)).deliver (seventh 6)).deliver (seventh 2)

/-- The second and the fifth datagram arrive. -/
def steady : Link := (seven.deliver (seventh 1)).deliver (seventh 4)

theorem near_of_newest {link : Link} {datagram : Datagram} {last : Nat}
    (isNewest : newest? link.taken = some last)
    (near : datagram.newest < last + 0x8000 ∧ last ≤ datagram.newest + 0x8000) :
    link.Near datagram := by
  intro other same
  rw [isNewest] at same
  cases same
  exact near

theorem seven_reached (admits : Link → Datagram → Prop) : Reached admits seven := by
  unfold seven
  simp only [List.foldl_cons, List.foldl_nil]
  iterate 7 apply Reached.send _ rfl (by decide)
  exact .start .empty rfl

theorem lossy_reached : Reached Near lossy := by
  have third : Reached Near (seven.deliver (seventh 2)) :=
    .deliver (seven_reached Near) (by decide) (fun last isNewest => nomatch isNewest)
  have last : Reached Near ((seven.deliver (seventh 2)).deliver (seventh 6)) :=
    .deliver third (by decide) (near_of_newest (show newest? _ = some 2 from rfl) (by decide))
  exact .deliver last (by decide) (near_of_newest (show newest? _ = some 6 from rfl) (by decide))

theorem steady_reached : Reached Close steady := by
  have second : Reached Close (seven.deliver (seventh 1)) := by
    refine .deliver (seven_reached Close) (by decide) ⟨?_, fun _ => by decide, ?_⟩
    · exact fun last isNewest => nomatch isNewest
    · exact fun last isNewest => nomatch isNewest
  refine .deliver second (by decide) ⟨?_, ?_, ?_⟩
  · exact near_of_newest (show newest? _ = some 1 from rfl) (by decide)
  · exact fun none => nomatch none
  · intro last isNewest
    cases isNewest
    decide

/-- Losing the fourth message flags a gap at the fifth. -/
theorem delivery_lossy :
    lossy.taken.map (fun entry => (entry.1, entry.2.gap)) =
        [(0, false), (1, false), (2, false), (4, true), (5, false), (6, false)] ∧
      (lossy.taken.map (·.1)).Pairwise (· < ·) ∧
      (∀ datagram ∈ lossy.arrived, datagram.newest < awaited lossy.taken) ∧
      steady.taken.map (·.1) = List.range 5 ∧
      (∀ datagram ∈ steady.arrived, datagram.newest < 5) ∧
      ∀ entry ∈ steady.taken, entry.2.gap = false := by
  have near := steady_reached.mono fun _ _ close => close.1
  obtain ⟨increasing, -, -, -, newest, -⟩ := delivery lossy_reached
  obtain ⟨complete, arrived, steadily⟩ := (delivery near).2.2.2.2.2 steady_reached
  exact ⟨by decide, increasing, newest, complete, arrived, steadily⟩

end Link

end Netplay
