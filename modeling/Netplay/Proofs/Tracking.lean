/-
Module: Netplay.Proofs.Tracking
Purpose: What an inbox makes of a datagram, whatever bytes it has: the accepted messages
  follow each other around the ring, and every gap between them is flagged.
Main exports:
  Inbox.linked, Inbox.Follows, Inbox.Covers, Inbox.Tracks, Inbox.tracks_acceptAll,
  Inbox.tracking
-/
import Mathlib.Algebra.Group.Nat.Defs
import Netplay.Proofs.Delivery
import Netplay.Proofs.FreshReading

namespace Netplay.Inbox

variable {inbox : Inbox} {before : Option Sequence} {message : Message}

/-! ## Accepted messages and their predecessors -/

/-- Each accepted message with the number accepted before it; `before` is the one that
was accepted before them all. -/
def linked (before : Option Sequence) : List Accepted → List (Option Sequence × Accepted)
  | [] => []
  | entry :: rest => (before, entry) :: linked (some entry.message.seq) rest

/-- An accepted message is newer than its predecessor, and it is flagged exactly if it
has one and is not the next one after it. -/
structure Follows (link : Option Sequence × Accepted) : Prop where
  newer : ∀ last, link.1 = some last → Sequence.isNewer link.2.message.seq last = true
  gap : link.2.gap = true ↔ ∃ last, link.1 = some last ∧ last + 1 ≠ link.2.message.seq

/-- The messages looked at, in order, are the accepted ones, and behind each of these
some that are not newer and are passed over. -/
def Covers (messages : List Message) (accepted : List Accepted) : Prop :=
  ∃ runs : List (Accepted × List Message), runs.map Prod.fst = accepted ∧
    messages = runs.flatMap (fun run => run.1.message :: run.2) ∧
    ∀ run ∈ runs, ∀ passed ∈ run.2,
      Sequence.isNewer passed.seq run.1.message.seq = false

/-- What a bundle with new messages leaves behind: an inbox and accepted messages. -/
structure Tracks (inbox : Inbox) (bundle : Bundle) (next : Inbox) (accepted : List Accepted) :
    Prop where
  /-- The oldest message is the first one that is accepted. -/
  oldest : ∃ first, accepted.head? = some first ∧ bundle.oldestFirst.head? = some first.message
  /-- Every accepted message is newer than the one before it, and is flagged if it is
  not the next one. -/
  follows : ∀ link ∈ linked inbox.last accepted, Follows link
  /-- The newest accepted message and its predecessor are remembered. -/
  newest : ∃ newest, (linked inbox.last accepted).getLast? = some (next.previous, newest) ∧
    next.last = some newest.message.seq
  retries : next.retries = 0
  /-- Nothing that could be accepted is passed over. -/
  covers : Covers bundle.oldestFirst accepted

/-! ## Accepting one message after the other -/

/-- The inbox that has accepted a message. -/
def moved (inbox : Inbox) (message : Message) : Inbox :=
  { inbox with last := some message.seq, previous := inbox.last }

/-- A message as it is accepted behind a number. -/
def taken (before : Option Sequence) (message : Message) : Accepted :=
  ⟨message, before.any fun last => last + 1 ≠ message.seq⟩

theorem acceptAll_fresh (fresh : Bundle.isFresh inbox.last message = true)
    (rest : List Message) :
    inbox.acceptAll (message :: rest) =
      (((inbox.moved message).acceptAll rest).1,
        taken inbox.last message :: ((inbox.moved message).acceptAll rest).2) := by
  have accepted : inbox.accept message =
      (inbox.moved message, some (taken inbox.last message)) :=
    Link.accept_of_fresh (by simpa [Bundle.isFresh] using fresh)
  rw [acceptAll, accepted]
  rfl

theorem acceptAll_stale (stale : ¬ Bundle.isFresh inbox.last message = true)
    (rest : List Message) : inbox.acceptAll (message :: rest) = inbox.acceptAll rest := by
  have passed : inbox.accept message = (inbox, none) :=
    if_pos (by simpa [Bundle.isFresh] using stale)
  rw [acceptAll, passed]
  rfl

theorem follows_taken (fresh : Bundle.isFresh before message = true) :
    Follows (before, taken before message) := by
  constructor
  · rintro last rfl
    exact (Bundle.isFresh_some last message).symm.trans fresh
  · rw [taken, Option.any_eq_true]
    simp only [decide_eq_true_eq]

theorem follows_acceptAll (inbox : Inbox) (messages : List Message) :
    ∀ link ∈ linked inbox.last (inbox.acceptAll messages).2, Follows link := by
  induction messages generalizing inbox with
  | nil => exact List.forall_mem_nil _
  | cons message rest inductionHypothesis =>
      by_cases fresh : Bundle.isFresh inbox.last message = true
      · rw [acceptAll_fresh fresh, linked, List.forall_mem_cons]
        exact ⟨follows_taken fresh, inductionHypothesis (inbox.moved message)⟩
      · rw [acceptAll_stale fresh]
        exact inductionHypothesis inbox

/-- The inbox that has accepted these messages remembers the last of them. -/
def landed (inbox : Inbox) (accepted : List Accepted) : Inbox :=
  (linked inbox.last accepted).getLast?.elim inbox fun link =>
    { inbox with last := some link.2.message.seq, previous := link.1 }

theorem landed_cons (inbox : Inbox) (entry : Accepted) (rest : List Accepted) :
    inbox.landed (entry :: rest) = (inbox.moved entry.message).landed rest := by
  cases rest with
  | nil => rfl
  | cons next others =>
      unfold landed
      rw [linked, linked, List.getLast?_cons_cons]
      simp only [moved, linked, List.getLast?_cons, Option.elim_some]

theorem acceptAll_landed (inbox : Inbox) (messages : List Message) :
    (inbox.acceptAll messages).1 = inbox.landed (inbox.acceptAll messages).2 := by
  induction messages generalizing inbox with
  | nil => rfl
  | cons message rest inductionHypothesis =>
      by_cases fresh : Bundle.isFresh inbox.last message = true
      · rw [acceptAll_fresh fresh, landed_cons]
        exact inductionHypothesis (inbox.moved message)
      · rw [acceptAll_stale fresh]
        exact inductionHypothesis inbox

/-- Behind an accepted message some may be passed over, until the next one that is
accepted. -/
theorem covers_acceptAll {last : Sequence} (inbox : Inbox) (behind : inbox.last = some last)
    (messages : List Message) :
    ∃ passed rest, messages = passed ++ rest ∧
      (∀ message ∈ passed, Sequence.isNewer message.seq last = false) ∧
      Covers rest (inbox.acceptAll messages).2 := by
  induction messages generalizing inbox last with
  | nil => exact ⟨[], [], rfl, List.forall_mem_nil _, [], rfl, rfl, List.forall_mem_nil _⟩
  | cons message rest inductionHypothesis =>
      by_cases fresh : Bundle.isFresh inbox.last message = true
      · obtain ⟨passed, later, split, old, runs, accepted, messages, pass⟩ :=
          inductionHypothesis (inbox.moved message) rfl
        rw [acceptAll_fresh fresh]
        refine ⟨[], message :: rest, rfl, List.forall_mem_nil _,
          (taken inbox.last message, passed) :: runs, ?_, ?_, ?_⟩
        · rw [List.map_cons, accepted]
        · rw [List.flatMap_cons, ← messages, split]
          rfl
        · rw [List.forall_mem_cons]
          exact ⟨old, pass⟩
      · obtain ⟨passed, later, split, old, covers⟩ := inductionHypothesis inbox behind
        rw [acceptAll_stale fresh]
        refine ⟨message :: passed, later, by rw [split]; rfl, ?_, covers⟩
        rw [List.forall_mem_cons]
        refine ⟨?_, old⟩
        rw [behind, Bundle.isFresh_some] at fresh
        exact Bool.eq_false_iff.mpr fresh

/-- An inbox that has accepted something remembers the last link of the chain. -/
theorem landed_newest (inbox : Inbox) {accepted : List Accepted} (several : accepted ≠ []) :
    ∃ newest, (linked inbox.last accepted).getLast? =
        some ((inbox.landed accepted).previous, newest) ∧
      (inbox.landed accepted).last = some newest.message.seq := by
  obtain ⟨entry, rest, rfl⟩ := List.exists_cons_of_ne_nil several
  obtain ⟨link, found⟩ : ∃ link, (linked inbox.last (entry :: rest)).getLast? = some link :=
    ⟨_, List.getLast?_cons⟩
  unfold landed
  rw [found]
  exact ⟨link.2, rfl, rfl⟩

theorem landed_retries (inbox : Inbox) (accepted : List Accepted) :
    (inbox.landed accepted).retries = inbox.retries := by
  unfold landed
  cases (linked inbox.last accepted).getLast? with
  | none => rfl
  | some link => rfl

/-- What is accepted of a bundle the oldest message of which is fresh. -/
theorem tracks_acceptAll (inbox : Inbox) (reset : inbox.retries = 0) {bundle : Bundle}
    {rest : List Message} (order : bundle.oldestFirst = message :: rest)
    (fresh : Bundle.isFresh inbox.last message = true) :
    inbox.Tracks bundle (inbox.acceptAll bundle.oldestFirst).1
      (inbox.acceptAll bundle.oldestFirst).2 := by
  have starts : (inbox.acceptAll bundle.oldestFirst).2 =
      taken inbox.last message :: ((inbox.moved message).acceptAll rest).2 := by
    rw [order, acceptAll_fresh fresh]
  have lands := inbox.acceptAll_landed bundle.oldestFirst
  constructor
  · exact ⟨taken inbox.last message, by rw [starts]; rfl, by rw [order]; rfl⟩
  · exact inbox.follows_acceptAll bundle.oldestFirst
  · rw [lands]
    refine inbox.landed_newest ?_
    rw [starts]
    exact List.cons_ne_nil _ _
  · rw [lands, landed_retries, reset]
  · obtain ⟨passed, later, split, old, runs, accepted, messages, pass⟩ :=
      covers_acceptAll (inbox.moved message) rfl rest
    rw [starts, order]
    refine ⟨(taken inbox.last message, passed) :: runs, ?_, ?_, ?_⟩
    · rw [List.map_cons, accepted]
    · rw [List.flatMap_cons, ← messages, split]
      rfl
    · rw [List.forall_mem_cons]
      exact ⟨old, pass⟩

/-- Whatever an inbox has accepted, and whatever bytes come: if they cannot be read,
nothing changes; if they hold nothing new, only one more request is counted, up to 2³² - 1
in a row and then from zero again; and otherwise the new messages are accepted from the
oldest one on, each newer than the one before, and the gaps between them are flagged. -/
theorem tracking (inbox : Inbox) (datagram : Bytes) :
    (∀ error, Bundle.parse datagram inbox.last = .error error →
      inbox.receive datagram = (inbox, .rejected error)) ∧
    (∀ bundle, Bundle.parse datagram inbox.last = .ok bundle → bundle.messages = [] →
      inbox.receive datagram =
        ({ inbox with retries := inbox.retries + 1 },
          .retransmitRequest (inbox.retries + 1)) ∧
        (inbox.retries + 1).toNat = (inbox.retries.toNat + 1) % 2 ^ 32) ∧
    ∀ bundle, Bundle.parse datagram inbox.last = .ok bundle → bundle.messages ≠ [] →
      ∃ next accepted, inbox.receive datagram = (next, .messages accepted) ∧
        inbox.Tracks bundle next accepted := by
  refine ⟨fun error failed => ?_, fun bundle read empty => ?_, fun bundle read several => ?_⟩
  · rw [receive, failed]
  · rw [receive, read]
    exact ⟨if_pos empty, UInt32.toNat_add _ _⟩
  · obtain ⟨oldest, newer, order⟩ := List.exists_cons_of_ne_nil
      (mt List.reverse_eq_nil_iff.mp several)
    have member : oldest ∈ bundle.messages := by
      rw [← List.mem_reverse, order]
      exact List.mem_cons_self
    have tracks := tracks_acceptAll { inbox with retries := 0 } rfl order
      (Bundle.isFresh_of_parse read oldest member)
    refine ⟨_, _, ?_, tracks.oldest, tracks.follows, tracks.newest, tracks.retries, tracks.covers⟩
    rw [receive, read]
    exact if_neg several

/-- A hostile datagram lists its numbers in no order. Behind number 10 it is read up to
the message with number 3; of the others 40 is accepted first, 12 and 11 are not newer, and
then 41 and 50 are accepted. -/
theorem tracking_scattered :
    let inbox : Inbox := ⟨some 10, some 9, 2⟩
    let bundle : Bundle := ⟨[50, 41, 11, 12, 40].map fun seq => ⟨seq, 0x07, []⟩⟩
    let datagram := Bundle.encode ⟨bundle.messages ++ [⟨3, 0x07, []⟩]⟩
    Bundle.parse datagram inbox.last = .ok bundle ∧ bundle.messages ≠ [] ∧
      ∃ next accepted, inbox.receive datagram = (next, .messages accepted) ∧
        inbox.Tracks bundle next accepted := by
  intro inbox bundle datagram
  have read : Bundle.parse datagram inbox.last = .ok bundle := rfl
  have several : bundle.messages ≠ [] := List.cons_ne_nil _ _
  obtain ⟨-, -, tracks⟩ := tracking inbox datagram
  exact ⟨read, several, tracks bundle read several⟩

end Netplay.Inbox
