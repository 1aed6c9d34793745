/-
Module: Netplay.Proofs.Lockstep
Purpose: The invariant that keeps the players of a round in step, and that
  everything that can happen in the round keeps it.
Main exports:
  Lockstep, Lockstep.start, Lockstep.step
-/
import Netplay.Proofs.Round

namespace Netplay

open RoundView

/-- The invariant of a round whose messages all have `actions` actions of
`size` bytes and whose queues have room for two of them. -/
structure Lockstep (game : GameId) (actions size : Nat) (view : RoundView) : Prop where
  /-- A queue has a reader for each player and room for two messages. -/
  seat : ∀ (slot : Nat) (queue : ActionQueue), view.queues[slot]? = some queue →
    queue.heads.length = view.players ∧ 2 * (actions * size) ≤ queue.capacity
  /-- No user has two queues. -/
  own : ∀ (slot other : Nat) (queue another : ActionQueue),
    view.queues[slot]? = some queue → view.queues[other]? = some another →
    queue.user = another.user → slot = other
  whole : ∀ user, ∀ message ∈ view.messages user, message.length = actions * size
  /-- A queue in synchrony holds the messages of its user. -/
  stream : ∀ (slot : Nat) (queue : ActionQueue), view.queues[slot]? = some queue →
    queue.synched = true → queue.Holds (view.messages queue.user).flatten
  merge : ∀ user merge, view.flight user = some merge →
    view.Fits actions size user merge
  /-- Each message has come to an end or is in flight. -/
  count : ∀ user, (view.messages user).length =
    (view.returns user).length + if (view.flight user).isSome then 1 else 0
  paced : ∀ (reader slot : Nat) (own queue : ActionQueue), view.Live reader own →
    view.queues[slot]? = some queue → queue.synched = true →
    view.Paced actions size reader own.user slot queue
  /-- A player whose queue is in synchrony has a merge only while none of its
  calls has failed. -/
  clean : ∀ (slot : Nat) (queue : ActionQueue) (merge : Merge),
    view.queues[slot]? = some queue → queue.synched = true →
    view.flight queue.user = some merge → view.Clean queue.user
  gathered : ∀ (slot : Nat) (queue : ActionQueue) (merge : Merge),
    view.queues[slot]? = some queue → queue.synched = true →
    view.flight queue.user = some merge →
    view.Gathered size (view.returns queue.user).length merge.parts.reverse
  /-- A successful call gives its user, and nobody else, one whole frame. -/
  frames : ∀ (slot : Nat) (queue : ActionQueue) (index : Nat) (turn : Turn),
    view.queues[slot]? = some queue → queue.synched = true →
    (view.returns queue.user)[index]? = some turn → turn.result = some (.ok ()) →
    ∃ parts, parts.length = actions * view.players ∧
      turn.frames = [⟨queue.user, .game game (.data parts.flatten)⟩] ∧
      view.Gathered size index parts

namespace Lockstep

/-- A round begins in step: nobody has sent anything, and the queues are
empty. -/
theorem start {game : GameId} {actions size : Nat} {view : RoundView}
    (seat : ∀ (slot : Nat) (queue : ActionQueue), view.queues[slot]? = some queue →
      queue.heads.length = view.players ∧ 2 * (actions * size) ≤ queue.capacity)
    (own : ∀ (slot other : Nat) (queue another : ActionQueue),
      view.queues[slot]? = some queue → view.queues[other]? = some another →
      queue.user = another.user → slot = other)
    (empty : ∀ queue ∈ view.queues, queue.IsEmpty)
    (idle : ∀ user, view.flight user = none)
    (silent : ∀ user, view.messages user = [])
    (fresh : ∀ user, view.returns user = []) : Lockstep game actions size view where
  seat := seat
  own := own
  whole := fun user message member => by rw [silent] at member; cases member
  stream := fun slot queue place _ => by
    rw [silent]
    exact (empty queue (List.mem_of_getElem? place)).holds
  merge := fun user merge busy => by rw [idle] at busy; cases busy
  count := fun user => by rw [silent, fresh, idle]; rfl
  paced := fun reader slot own queue live place _ => by
    have start : view.position actions size own.user slot = 0 := by
      rw [position, fresh, collected_idle (idle _), visits_zero]
      simp
    have inside : reader < queue.heads.length := by
      rw [(seat slot queue place).1]
      exact (List.getElem?_eq_some_iff.mp live.place).1
    constructor
    · rw [start, List.getElem?_eq_getElem inside,
        (empty queue (List.mem_of_getElem? place)).heads _ (List.getElem_mem inside)]
    · rw [start]
      exact Nat.zero_le _
    · rw [silent]
      simp
  clean := fun slot queue merge _ _ busy => by rw [idle] at busy; cases busy
  gathered := fun slot queue merge _ _ busy => by rw [idle] at busy; cases busy
  frames := fun slot queue index turn _ _ ended => by
    rw [fresh] at ended
    cases ended

variable {game : GameId} {actions size : Nat} {view after : RoundView}

/-! ## Where the players stand -/

section Standing

variable (lockstep : Lockstep game actions size view)
include lockstep

/-- The place of the user of a merge is the one it reads under. -/
theorem reader_eq {user : UserId} {merge : Merge}
    (busy : view.flight user = some merge) {slot : Nat} {queue : ActionQueue}
    (place : view.queues[slot]? = some queue) (owner : queue.user = user) :
    merge.reader.toNat - 1 = slot := by
  obtain ⟨seat, own, seatPlace, sender, reader⟩ := (lockstep.merge user merge busy).seat
  have same := lockstep.own seat slot own queue seatPlace place
    (sender.trans owner.symm)
  omega

/-- A player that is about to read a queue in synchrony reads its stream from
where it stands. -/
theorem read_stream {reader slot : Nat} {own queue : ActionQueue}
    (live : view.Live reader own) (place : view.queues[slot]? = some queue)
    (synched : queue.synched = true) :
    max (view.position actions size own.user slot)
        (queue.written - queue.capacity) =
      view.position actions size own.user slot ∧
    ∀ count, view.position actions size own.user slot + count ≤ queue.written →
      queue.cells (view.position actions size own.user slot) count =
        ((view.messages queue.user).flatten.drop
          (view.position actions size own.user slot)).take count := by
  have holds := lockstep.stream slot queue place synched
  have length : (view.messages queue.user).flatten.length =
      (view.messages queue.user).length * (actions * size) :=
    length_flatten_of_width (lockstep.whole queue.user)
  have room : 2 * (actions * size) ≤ queue.capacity := (lockstep.seat slot queue place).2
  have drift := (lockstep.paced reader slot own queue live place synched).drift
  have start : (view.returns own.user).length * (actions * size) ≤
      view.position actions size own.user slot := Nat.le_add_right ..
  rw [Nat.add_mul] at drift
  have kept : (view.messages queue.user).flatten.length ≤
      view.position actions size own.user slot + queue.capacity := by
    omega
  refine ⟨?_, fun count there => holds.cells_eq kept (holds.written ▸ there)⟩
  rw [holds.written]
  omega

/-- An idle player has sent at most one message more than any other player has
got frames. -/
theorem sent_le {reader slot : Nat} {own queue : ActionQueue}
    (live : view.Live reader own) (sender : view.Live slot queue)
    (positive : 0 < actions * size) (idle : view.flight queue.user = none) :
    (view.messages queue.user).length ≤ (view.returns own.user).length + 1 := by
  -- The sender has read a message of the other player for each of its frames.
  have behind := (lockstep.paced slot reader queue own sender live.place
    live.synched).bound
  rw [position, collected_idle idle, visits_zero, Nat.mul_zero, Nat.add_zero]
    at behind
  have frames := Nat.le_of_mul_le_mul_right behind positive
  have senderCount := lockstep.count queue.user
  have ownCount := lockstep.count own.user
  rw [idle] at senderCount
  simp only [Option.isSome_none, Bool.false_eq_true, if_false, Nat.add_zero]
    at senderCount
  split at ownCount <;> omega

/-- The share that a merge collects is the right one for the frame its user
waits for. -/
theorem gathered_take {actor : UserId} {merge : Merge} {own queue next : ActionQueue}
    {part : Bytes} {seat : Nat} (live : view.Live seat own) (owner : own.user = actor)
    (busy : view.flight actor = some merge)
    (more : merge.parts.length < merge.actions * merge.players)
    (queuePlace : view.queues[merge.slot]? = some queue)
    (read : queue.read merge.reader merge.share false = .actions part next)
    (gathered : view.Gathered size (view.returns actor).length merge.parts.reverse) :
    view.Gathered size (view.returns actor).length
      (merge.take part).parts.reverse := by
  have fits := lockstep.merge actor merge busy
  have slotEq : merge.slot = merge.parts.length % view.players := by
    rw [Merge.slot, fits.breadth]
  intro place share sharePlace
  have shape : (merge.take part).parts.reverse = merge.parts.reverse ++ [part] :=
    List.reverse_cons ..
  rw [shape] at sharePlace
  by_cases old : place < merge.parts.reverse.length
  · rw [List.getElem?_append_left old] at sharePlace
    exact gathered place share sharePlace
  · rw [List.getElem?_append_right (Nat.le_of_not_lt old)] at sharePlace
    obtain ⟨first, rfl⟩ : place - merge.parts.reverse.length = 0 ∧ part = share := by
      cases index : place - merge.parts.reverse.length with
      | zero =>
          rw [index] at sharePlace
          exact ⟨rfl, Option.some.inj sharePlace⟩
      | succ rest =>
          rw [index] at sharePlace
          cases sharePlace
    have here : place = merge.parts.length := by
      rw [List.length_reverse] at old first
      omega
    subst here
    rw [← slotEq]
    obtain ⟨head, headPlace, ⟨silent, zeros, -⟩ | ⟨was, enough, bytes, -⟩⟩ :=
      ActionQueue.read_eq_actions read
    · rw [fits.width] at zeros
      refine ⟨zeros ▸ List.length_replicate .., fun other otherPlace => ?_⟩
      rw [queuePlace] at otherPlace
      cases otherPlace
      exact Or.inr ⟨silent, zeros⟩
    · have paced := lockstep.paced seat merge.slot own queue live queuePlace was
      obtain ⟨unlost, stream⟩ := lockstep.read_stream live queuePlace was
      have stands := paced.head
      rw [← lockstep.reader_eq busy live.place owner, headPlace] at stands
      cases stands
      have action : merge.parts.length / view.players < actions := by
        rw [fits.height, fits.breadth, Nat.mul_comm] at more
        exact Nat.div_lt_of_lt_mul more
      have position : view.position actions size own.user merge.slot =
          (view.returns own.user).length * (actions * size) +
            size * (merge.parts.length / view.players) := by
        rw [RoundView.position, owner, collected_busy busy, slotEq, visits_slot]
      have some : 0 < size := Nat.pos_of_mul_pos_left fits.positive
      rw [unlost, fits.width] at bytes enough
      rw [stream size (by omega), position] at bytes
      have written : queue.written =
          (view.messages queue.user).length * (actions * size) := by
        rw [(lockstep.stream _ queue queuePlace was).written]
        exact length_flatten_of_width (lockstep.whole queue.user)
      -- The message is there, for some byte of it has been written.
      have sent : (view.returns own.user).length < (view.messages queue.user).length := by
        apply Nat.lt_of_mul_lt_mul_right
        rw [← written]
        omega
      have message := List.getElem?_eq_getElem sent
      rw [take_drop_flatten (lockstep.whole queue.user) message action] at bytes
      refine ⟨?_, fun other otherPlace => ?_⟩
      · rw [bytes]
        exact length_share
          (lockstep.whole queue.user _ (List.getElem_mem sent)) action
      · rw [queuePlace] at otherPlace
        cases otherPlace
        exact Or.inl ⟨_, owner ▸ message, bytes⟩

end Standing

/-! ## What each event keeps -/

section Step

variable (lockstep : Lockstep game actions size view)
  (event : RoundView.Event game actions size view after)
include lockstep event

theorem seat_step {slot : Nat} {later : ActionQueue}
    (place : after.queues[slot]? = some later) :
    later.heads.length = after.players ∧ 2 * (actions * size) ≤ later.capacity := by
  obtain ⟨queue, before, -, readers, capacity, -⟩ := event.seats.back slot later place
  obtain ⟨length, room⟩ := lockstep.seat slot queue before
  exact ⟨readers.trans (length.trans event.seats.players.symm), capacity ▸ room⟩

theorem own_step {slot other : Nat} {later another : ActionQueue}
    (place : after.queues[slot]? = some later)
    (otherPlace : after.queues[other]? = some another)
    (same : later.user = another.user) : slot = other := by
  obtain ⟨queue, before, user, -⟩ := event.seats.back slot later place
  obtain ⟨second, otherBefore, otherUser, -⟩ := event.seats.back other another otherPlace
  exact lockstep.own slot other queue second before otherBefore
    (user.symm.trans (same.trans otherUser))

theorem whole_step (user : UserId) :
    ∀ message ∈ after.messages user, message.length = actions * size := by
  obtain ⟨actor, sent, ended, merge, change, wholeSent, -⟩ := event.change
  intro message member
  by_cases same : user = actor
  · subst same
    rw [change.messages, List.mem_append] at member
    rcases member with old | new
    · exact lockstep.whole user message old
    · exact wholeSent message new
  · rw [(change.others user same).1] at member
    exact lockstep.whole user message member

theorem count_step (user : UserId) : (after.messages user).length =
    (after.returns user).length + if (after.flight user).isSome then 1 else 0 := by
  obtain ⟨actor, sent, ended, merge, change, -, balance⟩ := event.change
  by_cases same : user = actor
  · subst same
    have before := lockstep.count user
    rw [change.messages, change.returns, change.flight, List.length_append,
      List.length_append]
    omega
  · obtain ⟨messages, returns, flight⟩ := change.others user same
    rw [messages, returns, flight]
    exact lockstep.count user

theorem merge_step {user : UserId} {merge : Merge}
    (inFlight : after.flight user = some merge) :
    after.Fits actions size user merge := by
  -- Only the merge of the user that acts can be another one than before.
  have old : ∀ {actor sent ended current}, Change view after actor sent ended current →
      (user = actor → current = some merge → view.Fits actions size user merge) →
      after.Fits actions size user merge := by
    intro actor sent ended current change acts
    apply event.seats.fits
    by_cases same : user = actor
    · rw [same, change.flight] at inFlight
      exact acts same inFlight
    · rw [(change.others user same).2.2] at inFlight
      exact lockstep.merge user merge inFlight
  cases event with
  | fade actor queues change =>
      exact old change fun same before => lockstep.merge user merge (same ▸ before)
  | send actor data begun slot queue place owner idle whole clean fits empty queues
      change =>
      exact old change fun same now => by cases now; exact same ▸ fits
  | refuse actor data turn error idle whole mute result queues change =>
      exact old change fun _ now => by cases now
  | take actor current queue later part busy more place read queues change =>
      apply old change
      intro same now
      cases now
      have fits := lockstep.merge actor current busy
      rw [fits.height, fits.breadth] at more
      exact same ▸ { fits with within := Nat.succ_le_of_lt more }
  | lapse actor current timeouts busy queues change =>
      apply old change
      intro same now
      cases now
      have fits := lockstep.merge actor current busy
      exact same ▸ { fits with }
  | finish actor current turn busy complete result frame queues change =>
      exact old change fun _ now => by cases now
  | fail actor current turn error busy result queues change =>
      exact old change fun _ now => by cases now

theorem stream_step {slot : Nat} {later : ActionQueue}
    (place : after.queues[slot]? = some later) (synched : later.synched = true) :
    later.Holds (after.messages later.user).flatten := by
  -- Most events leave queues and messages as they are.
  have still : after.queues = view.queues →
      (∀ user, after.messages user = view.messages user) →
      later.Holds (after.messages later.user).flatten := by
    intro queues messages
    rw [messages]
    exact lockstep.stream slot later (queues ▸ place) synched
  cases event with
  | fade actor queues change =>
      obtain ⟨queue, before, fades⟩ := queues.2 slot later place
      rw [fades.user, change.messages_eq]
      exact fades.holds (lockstep.stream slot queue before (fades.synched synched))
        synched
  | send actor data begun seat queue seatPlace owner idle whole clean fits empty queues
      change =>
      rw [queues, List.getElem?_modify] at place
      obtain ⟨earlier, before, rfl⟩ := Option.map_eq_some_iff.mp place
      by_cases same : seat = slot
      · subst same
        rw [seatPlace] at before
        cases before
        simp only [if_true, ActionQueue.add_synched, ActionQueue.add_user] at synched ⊢
        rw [owner, change.messages, List.flatten_append, List.flatten_singleton]
        exact (owner ▸ lockstep.stream seat queue seatPlace synched).add synched data
      · simp only [if_neg same] at synched ⊢
        have differs : earlier.user ≠ actor := fun equal =>
          same (lockstep.own seat slot queue earlier seatPlace before
            (owner.trans equal.symm))
        rw [(change.others _ differs).1]
        exact lockstep.stream slot earlier before synched
  | refuse actor data turn error idle whole mute result queues change =>
      rw [queues] at place
      have holds := lockstep.stream slot later place synched
      by_cases same : later.user = actor
      · have none := mute later (List.mem_of_getElem? place) same synched
        rw [same, change.messages, none, List.flatten_append]
        simpa [same] using holds
      · rw [(change.others _ same).1]
        exact holds
  | take actor current queue next part busy more seatPlace read queues change =>
      rw [change.messages_eq]
      rw [queues, List.getElem?_set] at place
      split at place
      · rename_i same
        subst same
        split at place
        · cases place
          obtain ⟨heads, rfl, -⟩ := ActionQueue.read_keeps read
          have holds := lockstep.stream _ queue seatPlace synched
          exact ⟨holds.written, holds.size, holds.cells⟩
        · cases place
      · exact lockstep.stream slot later place synched
  | lapse actor current timeouts busy queues change =>
      exact still queues change.messages_eq
  | finish actor current turn busy complete result frame queues change =>
      exact still queues change.messages_eq
  | fail actor current turn error busy result queues change =>
      exact still queues change.messages_eq

/-- A player that sends has got a frame for each of its messages, so every other
player keeps in step with it. -/
theorem paced_send {actor : UserId} {data : Bytes} {begun : Merge} {seat : Nat}
    {sender : ActionQueue} (seatPlace : view.queues[seat]? = some sender)
    (owner : sender.user = actor) (idle : view.flight actor = none)
    (clean : ∀ other, view.Clean other) (positive : 0 < actions * size)
    (empty : begun.parts = [])
    (queues : after.queues = view.queues.modify seat (·.add data))
    (change : Change view after actor [data] [] (some begun))
    {reader slot : Nat} {own later : ActionQueue}
    (live : after.Live reader own) (place : after.queues[slot]? = some later)
    (synched : later.synched = true) :
    after.Paced actions size reader own.user slot later := by
  obtain ⟨ownBefore, liveBefore, sameOwn⟩ := event.live live
  have position : after.position actions size own.user slot =
      view.position actions size own.user slot := by
    by_cases same : own.user = actor
    · refine position_eq event.seats.players (change.returns_eq _) ?_ slot
      rw [same, collected_idle idle, collected_busy change.flight, empty]
      rfl
    · exact change.position_other event.seats.players same slot
  rw [queues, List.getElem?_modify] at place
  obtain ⟨earlier, before, rfl⟩ := Option.map_eq_some_iff.mp place
  by_cases same : seat = slot
  · subst same
    rw [seatPlace] at before
    cases before
    simp only [if_true, ActionQueue.add_synched] at synched ⊢
    have paced := lockstep.paced reader seat ownBefore sender liveBefore seatPlace
      synched
    have sent : (view.messages sender.user).length ≤
        (view.returns ownBefore.user).length + 1 :=
      lockstep.sent_le liveBefore ⟨seatPlace, synched, clean _⟩ positive (owner ▸ idle)
    rw [← sameOwn] at paced sent
    have more : (after.messages sender.user).length =
        (view.messages sender.user).length + 1 := by
      rw [owner, change.messages, List.length_append]
      rfl
    constructor
    · rw [ActionQueue.add_heads, position]
      exact paced.head
    · rw [ActionQueue.add_user, position, more]
      exact Nat.le_trans paced.bound (Nat.mul_le_mul_right _ (Nat.le_succ _))
    · rw [ActionQueue.add_user, more, change.returns_eq]
      exact Nat.mul_le_mul_right _ (Nat.succ_le_succ sent)
  · simp only [if_neg same] at synched ⊢
    have differs : earlier.user ≠ actor := fun equal =>
      same (lockstep.own seat slot sender earlier seatPlace before
        (owner.trans equal.symm))
    have paced := lockstep.paced reader slot ownBefore earlier liveBefore before synched
    exact (sameOwn ▸ paced).still rfl (change.others _ differs).1 position
      (Nat.le_of_eq (by rw [change.returns_eq]))

/-- Where the user of a merge stands after the next visit of the merge. -/
theorem position_take {actor : UserId} {merge : Merge} {part : Bytes}
    (busy : view.flight actor = some merge)
    (change : Change view after actor [] [] (some (merge.take part))) {place : Nat}
    (inside : place < view.players) :
    after.position actions size actor place =
      view.position actions size actor place +
        if merge.slot = place then size else 0 := by
  have slotEq : merge.slot = merge.parts.length % view.players := by
    rw [Merge.slot, (lockstep.merge actor merge busy).breadth]
  have more : (merge.take part).parts.length = merge.parts.length + 1 := rfl
  rw [RoundView.position, RoundView.position, change.returns_eq, event.seats.players,
    collected_busy change.flight, collected_busy busy, Nat.add_assoc, slotEq, more,
    visits_succ _ inside, Nat.mul_add]
  split <;> simp

section Take

variable {actor : UserId} {merge : Merge} {queue : ActionQueue} {part : Bytes}
  {reader : Nat} {own : ActionQueue}

/-- The user of a merge keeps in step with the queue that the merge visits. -/
theorem paced_take_own {head : Nat} (busy : view.flight actor = some merge)
    (queuePlace : view.queues[merge.slot]? = some queue) (synched : queue.synched = true)
    (change : Change view after actor [] [] (some (merge.take part)))
    (live : view.Live reader own) (acts : own.user = actor)
    (headPlace : queue.heads[merge.reader.toNat - 1]? = some head)
    (enough : merge.share ≤
      queue.written - max head (queue.written - queue.capacity)) :
    after.Paced actions size reader actor merge.slot
      { queue with
        heads := queue.heads.set (merge.reader.toNat - 1)
          (max head (queue.written - queue.capacity) + merge.share) } := by
  subst acts
  have fits := lockstep.merge own.user merge busy
  have inside : merge.slot < view.queues.length :=
    (List.getElem?_eq_some_iff.mp queuePlace).1
  have paced := lockstep.paced reader _ own queue live queuePlace synched
  have unlost := (lockstep.read_stream live queuePlace synched).1
  have readerEq := lockstep.reader_eq busy live.place rfl
  have written : queue.written =
      (view.messages queue.user).length * (actions * size) := by
    rw [(lockstep.stream _ queue queuePlace synched).written]
    exact length_flatten_of_width (lockstep.whole queue.user)
  have arrived := lockstep.position_take event busy change inside
  rw [if_pos rfl] at arrived
  have stands := paced.head
  rw [readerEq, stands] at headPlace
  cases headPlace
  rw [unlost, fits.width] at enough
  constructor
  · rw [readerEq, arrived, unlost, fits.width, List.getElem?_set_self]
    exact (List.getElem?_eq_some_iff.mp stands).1
  · rw [arrived, change.messages_eq]
    have bound := paced.bound
    simp only at bound ⊢
    omega
  · rw [change.messages_eq, change.returns_eq]
    exact paced.drift

/-- Another player keeps in step with the queue that a merge visits: the merge
moves its own reader only. -/
theorem paced_take_other {head : Nat} (busy : view.flight actor = some merge)
    (queuePlace : view.queues[merge.slot]? = some queue) (synched : queue.synched = true)
    (change : Change view after actor [] [] (some (merge.take part)))
    (live : view.Live reader own) (differs : own.user ≠ actor) :
    after.Paced actions size reader own.user merge.slot
      { queue with heads := queue.heads.set (merge.reader.toNat - 1) head } := by
  have fits := lockstep.merge actor merge busy
  have paced := lockstep.paced reader _ own queue live queuePlace synched
  have position : after.position actions size own.user merge.slot =
      view.position actions size own.user merge.slot :=
    change.position_other event.seats.players differs merge.slot
  obtain ⟨seat, seatQueue, seatPlace, sender, readerEq⟩ := fits.seat
  have apart : merge.reader.toNat - 1 ≠ reader := by
    intro equal
    have together : seat = reader := by omega
    rw [together, live.place] at seatPlace
    cases seatPlace
    exact differs sender
  constructor
  · rw [List.getElem?_set_ne apart, position]
    exact paced.head
  · rw [change.messages_eq, position]
    exact paced.bound
  · rw [change.messages_eq, change.returns_eq]
    exact paced.drift

end Take

/-- Collecting a share moves the reader of the merge on, in the queue that is
read and in no other. -/
theorem paced_take {actor : UserId} {merge : Merge} {queue next : ActionQueue}
    {part : Bytes} (busy : view.flight actor = some merge)
    (read : queue.read merge.reader merge.share false = .actions part next)
    (queuePlace : view.queues[merge.slot]? = some queue)
    (queues : after.queues = view.queues.set merge.slot next)
    (change : Change view after actor [] [] (some (merge.take part)))
    {reader slot : Nat} {own later : ActionQueue}
    (live : after.Live reader own) (place : after.queues[slot]? = some later)
    (synched : later.synched = true) :
    after.Paced actions size reader own.user slot later := by
  obtain ⟨ownBefore, liveBefore, sameOwn⟩ := event.live live
  rw [queues, List.getElem?_set] at place
  rw [sameOwn]
  by_cases same : merge.slot = slot
  · subst same
    have inside : merge.slot < view.queues.length :=
      (List.getElem?_eq_some_iff.mp queuePlace).1
    rw [if_pos rfl, if_pos inside] at place
    cases place
    obtain ⟨head, headPlace, ⟨silent, -, rfl⟩ | ⟨was, enough, -, rfl⟩⟩ :=
      ActionQueue.read_eq_actions read
    · rw [silent] at synched
      cases synched
    · by_cases acts : ownBefore.user = actor
      · have paced := lockstep.paced_take_own event busy queuePlace was change liveBefore
          acts headPlace enough
        exact acts ▸ paced
      · exact lockstep.paced_take_other event busy queuePlace was change liveBefore acts
  · rw [if_neg same] at place
    have paced := lockstep.paced reader slot ownBefore later liveBefore place synched
    apply paced.still rfl (change.messages_eq _)
    · by_cases acts : ownBefore.user = actor
      · have arrived := lockstep.position_take event busy change
          (List.getElem?_eq_some_iff.mp place).1
        rwa [if_neg same, Nat.add_zero, ← acts] at arrived
      · exact change.position_other event.seats.players acts slot
    · exact Nat.le_of_eq (congrArg List.length (change.returns_eq _).symm)

theorem paced_step {reader slot : Nat} {own later : ActionQueue}
    (live : after.Live reader own) (place : after.queues[slot]? = some later)
    (synched : later.synched = true) :
    after.Paced actions size reader own.user slot later := by
  obtain ⟨ownBefore, liveBefore, sameOwn⟩ := event.live live
  have players := event.seats.players
  -- Where no queue changes, only the position has to be looked at.
  have still : ∀ {actor ended merge}, after.queues = view.queues →
      Change view after actor [] ended merge →
      after.position actions size own.user slot =
        view.position actions size own.user slot →
      after.Paced actions size reader own.user slot later := by
    intro actor ended merge queues change position
    have paced := lockstep.paced reader slot ownBefore later liveBefore
      (queues ▸ place) synched
    exact (sameOwn ▸ paced).still rfl (change.messages_eq _) position
      (change.returns_prefix _).length_le
  have keep := event
  cases event with
  | fade actor queues change =>
      obtain ⟨queue, before, fades⟩ := queues.2 slot later place
      have paced := lockstep.paced reader slot ownBefore queue liveBefore before
        (fades.synched synched)
      refine (sameOwn ▸ paced).still (fades.kept synched).2.2 ?_ ?_
        (change.returns_prefix _).length_le
      · rw [fades.user, change.messages_eq]
      · by_cases same : own.user = actor
        · refine position_eq players (change.returns_eq _) ?_ slot
          rw [same, collected, change.flight, collected]
        · exact change.position_other players same slot
  | send actor data begun seat queue seatPlace owner idle whole clean fits empty queues
      change =>
      exact lockstep.paced_send keep seatPlace owner idle clean fits.positive empty
        queues change live place synched
  | refuse actor data turn error idle whole mute result queues change =>
      have differs : own.user ≠ actor := fun same =>
        change.not_clean result (same ▸ live.clean)
      have position : after.position actions size own.user slot =
          view.position actions size own.user slot :=
        change.position_other players differs slot
      rw [queues] at place
      have paced := lockstep.paced reader slot ownBefore later liveBefore place synched
      rw [← sameOwn] at paced
      by_cases same : later.user = actor
      · -- A message that is refused to a queue in synchrony has no bytes.
        have none := mute later (List.mem_of_getElem? place) same synched
        have zero : actions * size = 0 := by rw [← whole, none]; rfl
        refine ⟨position ▸ paced.head, ?_, ?_⟩
        · have bound := paced.bound
          rw [position]
          rw [zero, Nat.mul_zero] at bound ⊢
          exact bound
        · rw [zero]
          exact Nat.le_refl _
      · exact paced.still rfl (change.others _ same).1 position
          (change.returns_prefix _).length_le
  | take actor merge queue next part busy more queuePlace read queues change =>
      exact lockstep.paced_take keep busy read queuePlace queues change live place synched
  | lapse actor merge timeouts busy queues change =>
      apply still queues change
      by_cases same : own.user = actor
      · refine position_eq players (change.returns_eq _) ?_ slot
        rw [same, collected_busy busy, collected_busy change.flight]
      · exact change.position_other players same slot
  | finish actor merge turn busy complete result frame queues change =>
      apply still queues change
      by_cases same : own.user = actor
      · have fits := lockstep.merge actor merge busy
        have some : 0 < view.players :=
          Nat.zero_lt_of_lt (List.getElem?_eq_some_iff.mp liveBefore.place).1
        rw [fits.height, fits.breadth] at complete
        have all : merge.parts.length = actions * view.players :=
          Nat.le_antisymm fits.within complete
        rw [same, RoundView.position, RoundView.position, change.returns,
          collected_idle change.flight, collected_busy busy, all,
          visits_whole actions slot some, visits_zero, List.length_append,
          List.length_singleton, Nat.succ_mul, Nat.mul_comm size actions]
        rfl
      · exact change.position_other players same slot
  | fail actor merge turn error busy result queues change =>
      have differs : own.user ≠ actor := fun same =>
        change.not_clean result (same ▸ live.clean)
      exact still queues change (change.position_other players differs slot)

theorem clean_step {slot : Nat} {later : ActionQueue} {merge : Merge}
    (place : after.queues[slot]? = some later) (synched : later.synched = true)
    (inFlight : after.flight later.user = some merge) : after.Clean later.user := by
  obtain ⟨queue, before, user, -, -, fades⟩ := event.seats.back slot later place
  have was := fades synched
  rw [user] at inFlight ⊢
  -- A merge that was in flight before, of a user none of whose calls ends now.
  have still : ∀ {actor sent current},
      Change view after actor sent [] current →
      (queue.user = actor → view.Clean actor) → after.Clean queue.user := by
    intro actor sent current change acts
    unfold RoundView.Clean
    rw [change.returns_eq]
    by_cases same : queue.user = actor
    · exact same ▸ acts same
    · rw [(change.others _ same).2.2] at inFlight
      exact lockstep.clean slot queue merge before was inFlight
  have idle : ∀ {actor sent ended}, Change view after actor sent ended none →
      after.Clean queue.user := by
    intro actor sent ended change
    have differs : queue.user ≠ actor := by
      intro same
      rw [same, change.flight] at inFlight
      cases inFlight
    obtain ⟨-, returns, flight⟩ := change.others _ differs
    rw [flight] at inFlight
    unfold RoundView.Clean
    rw [returns]
    exact lockstep.clean slot queue merge before was inFlight
  cases event with
  | fade actor queues change =>
      apply still change
      intro same
      rw [same, change.flight] at inFlight
      exact same ▸ lockstep.clean slot queue merge before was (same ▸ inFlight)
  | send actor data begun seat sender seatPlace owner idle whole clean fits empty queues
      change =>
      exact still change fun _ => clean actor
  | refuse actor data turn error idle' whole mute result queues change =>
      exact idle change
  | take actor current target next part busy more targetPlace read queues change =>
      exact still change fun same =>
        same ▸ lockstep.clean slot queue current before was (same ▸ busy)
  | lapse actor current timeouts busy queues change =>
      exact still change fun same =>
        same ▸ lockstep.clean slot queue current before was (same ▸ busy)
  | finish actor current turn busy complete result frame queues change =>
      exact idle change
  | fail actor current turn error busy result queues change =>
      exact idle change

/-- A player in synchrony has collected the right shares for the frame it waits
for. -/
theorem gathered_step {slot : Nat} {later : ActionQueue} {merge : Merge}
    (place : after.queues[slot]? = some later) (synched : later.synched = true)
    (inFlight : after.flight later.user = some merge) :
    after.Gathered size (after.returns later.user).length merge.parts.reverse := by
  obtain ⟨queue, before, user, -, -, fades⟩ := event.seats.back slot later place
  have was := fades synched
  have seats := event.seats
  have grows := event.messages_prefix
  rw [user] at inFlight ⊢
  have other : ∀ {actor sent ended current},
      Change view after actor sent ended current → queue.user ≠ actor →
      after.Gathered size (after.returns queue.user).length merge.parts.reverse := by
    intro actor sent ended current change differs
    obtain ⟨-, returns, flight⟩ := change.others _ differs
    rw [flight] at inFlight
    rw [returns]
    exact seats.gathered grows (lockstep.gathered slot queue merge before was inFlight)
  have idle : ∀ {actor sent ended}, Change view after actor sent ended none →
      after.Gathered size (after.returns queue.user).length merge.parts.reverse := by
    intro actor sent ended change
    apply other change
    intro same
    rw [same, change.flight] at inFlight
    cases inFlight
  cases event with
  | fade actor queues change =>
      by_cases same : queue.user = actor
      · rw [same, change.flight, ← same] at inFlight
        rw [change.returns_eq]
        exact seats.gathered grows (lockstep.gathered slot queue merge before was inFlight)
      · exact other change same
  | send actor data begun seat sender seatPlace owner idle' whole clean fits empty queues
      change =>
      by_cases same : queue.user = actor
      · rw [same, change.flight] at inFlight
        cases inFlight
        rw [empty]
        intro place part partPlace
        cases partPlace
      · exact other change same
  | refuse actor data turn error idle' whole mute result queues change =>
      exact idle change
  | take actor current target next part busy more targetPlace read queues change =>
      by_cases same : queue.user = actor
      · rw [same, change.flight] at inFlight
        cases inFlight
        have flies : view.flight queue.user = some current := same ▸ busy
        rw [change.returns_eq, same]
        exact seats.gathered grows
          (lockstep.gathered_take
            ⟨before, was, lockstep.clean slot queue current before was flies⟩ same busy
            more targetPlace read
            (same ▸ lockstep.gathered slot queue current before was flies))
      · exact other change same
  | lapse actor current timeouts busy queues change =>
      by_cases same : queue.user = actor
      · rw [same, change.flight] at inFlight
        cases inFlight
        rw [change.returns_eq]
        exact seats.gathered grows
          (lockstep.gathered slot queue current before was (same ▸ busy))
      · exact other change same
  | finish actor current turn busy complete result frame queues change =>
      exact idle change
  | fail actor current turn error busy result queues change =>
      exact idle change

/-- A call that succeeds gives its player one frame of the right shares. -/
theorem frames_step {slot index : Nat} {later : ActionQueue} {turn : Turn}
    (place : after.queues[slot]? = some later) (synched : later.synched = true)
    (ended : (after.returns later.user)[index]? = some turn)
    (success : turn.result = some (.ok ())) :
    ∃ parts, parts.length = actions * after.players ∧
      turn.frames = [⟨later.user, .game game (.data parts.flatten)⟩] ∧
      after.Gathered size index parts := by
  obtain ⟨queue, before, user, -, -, fades⟩ := event.seats.back slot later place
  have was := fades synched
  have seats := event.seats
  have grows := event.messages_prefix
  rw [user] at ended ⊢
  rw [seats.players]
  -- A call that had already ended.
  have old : (view.returns queue.user)[index]? = some turn →
      ∃ parts, parts.length = actions * view.players ∧
        turn.frames = [⟨queue.user, .game game (.data parts.flatten)⟩] ∧
        after.Gathered size index parts := by
    intro earlier
    obtain ⟨parts, length, frame, gathered⟩ :=
      lockstep.frames slot queue index turn before was earlier success
    exact ⟨parts, length, frame, seats.gathered grows gathered⟩
  -- A call that ends now.
  have new : ∀ {actor sent last merge},
      Change view after actor sent [last] merge →
      (view.returns queue.user)[index]? = some turn ∨
        queue.user = actor ∧ index = (view.returns actor).length ∧ turn = last := by
    intro actor sent last merge change
    by_cases same : queue.user = actor
    · rw [same, change.returns] at ended
      by_cases inside : index < (view.returns actor).length
      · rw [List.getElem?_append_left inside] at ended
        exact Or.inl (same ▸ ended)
      · rw [List.getElem?_append_right (Nat.le_of_not_lt inside)] at ended
        obtain ⟨within, lastEq⟩ := List.getElem?_eq_some_iff.mp ended
        simp only [List.length_singleton] at within
        refine Or.inr ⟨same, by omega, ?_⟩
        rw [← lastEq, List.getElem_singleton]
    · rw [(change.others _ same).2.1] at ended
      exact Or.inl ended
  cases event with
  | fade actor queues change => exact old (change.returns_eq _ ▸ ended)
  | send actor data begun seat sender seatPlace owner idle whole clean fits empty queues
      change =>
      exact old (change.returns_eq _ ▸ ended)
  | refuse actor data last error idle whole mute result queues change =>
      rcases new change with earlier | ⟨-, -, rfl⟩
      · exact old earlier
      · rw [result] at success
        cases success
  | take actor current target next part busy more targetPlace read queues change =>
      exact old (change.returns_eq _ ▸ ended)
  | lapse actor current timeouts busy queues change =>
      exact old (change.returns_eq _ ▸ ended)
  | finish actor current last busy complete result frame queues change =>
      rcases new change with earlier | ⟨same, rfl, rfl⟩
      · exact old earlier
      · have fits := lockstep.merge actor current busy
        refine ⟨current.parts.reverse, ?_, ?_, ?_⟩
        · rw [fits.height, fits.breadth] at complete
          rw [List.length_reverse]
          exact Nat.le_antisymm fits.within complete
        · rw [frame, same]
          rfl
        · rw [← same]
          exact seats.gathered grows
            (lockstep.gathered slot queue current before was (same ▸ busy))
  | fail actor current last error busy result queues change =>
      rcases new change with earlier | ⟨-, -, rfl⟩
      · exact old earlier
      · rw [result] at success
        cases success

/-- Whatever happens in the round, the players stay in step. -/
theorem step : Lockstep game actions size after where
  seat := fun _ _ => lockstep.seat_step event
  own := fun _ _ _ _ => lockstep.own_step event
  whole := lockstep.whole_step event
  stream := fun _ _ => lockstep.stream_step event
  merge := fun _ _ => lockstep.merge_step event
  count := lockstep.count_step event
  paced := fun _ _ _ _ => lockstep.paced_step event
  clean := fun _ _ _ => lockstep.clean_step event
  gathered := fun _ _ _ => lockstep.gathered_step event
  frames := fun _ _ _ _ => lockstep.frames_step event

end Step

end Lockstep

end Netplay
