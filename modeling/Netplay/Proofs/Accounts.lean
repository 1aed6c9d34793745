/-
Module: Netplay.Proofs.Accounts
Purpose: What readers have not read yet, and what merges in flight are still to
  take of it: work on merges keeps the two in balance.
Main exports:
  ActionQueue.Trim, Merge.due, Game.Lit, Arena.unread, Arena.owed, Arena.Balances,
  Arena.balances_collect, Arena.balances_retry
-/
import Mathlib.Algebra.Ring.Nat
import Netplay.Proofs.Membership

namespace Netplay

open RoundView

/-! ## Queues -/

namespace ActionQueue

/-- No reader is ahead of what is written. -/
def Trim (queue : ActionQueue) : Prop := ∀ head ∈ queue.heads, head ≤ queue.written

section Trim

variable {queue later : ActionQueue} {reader other : UInt8} {count : Nat} {waited : Bool}
  {bytes : Bytes}

theorem IsEmpty.trim (empty : queue.IsEmpty) : queue.Trim := fun head member => by
  rw [empty.heads head member]
  exact Nat.zero_le _

theorem Fades.trim (fades : queue.Fades later) (trim : queue.Trim) : later.Trim := by
  rcases fades.content with ⟨written, -, heads⟩ | ⟨-, empty⟩
  · rw [Trim, heads, written]
    exact trim
  · exact empty.trim

theorem Trim.position_le (trim : queue.Trim) (serves : queue.Serves reader) :
    queue.position reader ≤ queue.written := by
  have place := List.getElem?_eq_getElem serves.inside
  have behind := trim _ (List.getElem_mem serves.inside)
  simp only [position, head?, place, Option.map_some, Option.getD_some]
  omega

/-- A reader is never behind what is held. -/
theorem Serves.kept (serves : queue.Serves reader) :
    queue.written - queue.capacity ≤ queue.position reader := by
  have place := List.getElem?_eq_getElem serves.inside
  simp only [position, head?, place, Option.map_some, Option.getD_some]
  omega

/-- A read moves its reader on to bytes that are there. -/
theorem Trim.read (trim : queue.Trim)
    (answered : queue.read reader count waited = .actions bytes later) : later.Trim := by
  obtain ⟨serves, ⟨-, -, -, rfl⟩ | ⟨-, enough, -, rfl⟩⟩ := read_answered answered
  · exact trim
  · intro head member
    have behind := trim.position_le serves
    rw [available] at enough
    rcases List.mem_or_eq_of_mem_set member with old | rfl
    · exact trim head old
    · change queue.position reader + count ≤ queue.written
      omega

theorem Trim.add (trim : queue.Trim) (data : Bytes) : (queue.add data).Trim := by
  cases on : queue.synched with
  | true =>
      intro head member
      rw [add_heads] at member
      rw [queue.add_written data on]
      exact Nat.le_add_right_of_le (trim head member)
  | false => rwa [queue.add_of_not_synched data on]

end Trim

section Available

variable {queue later : ActionQueue} {reader other : UInt8} {count : Nat} {waited : Bool}
  {bytes : Bytes}

/-- In synchrony, what a reader reads is not there for it any more, and all other
readers find what they found. -/
theorem available_read (trim : queue.Trim) (on : queue.synched = true)
    (answered : queue.read reader count waited = .actions bytes later) (positive : other ≠ 0) :
    later.available other + (if other = reader then count else 0) = queue.available other := by
  obtain ⟨serves, ⟨off, -⟩ | ⟨-, enough, -, rfl⟩⟩ := read_answered answered
  · rw [on] at off
    cases off
  · have behind := trim.position_le serves
    have kept := serves.kept
    split
    · rename_i same
      rw [same, available, position_advance_self serves]
      simp only [available] at enough ⊢
      change queue.written - _ + count = _
      omega
    · rename_i differs
      rw [available, position_advance_other serves.1 positive differs]
      rfl

/-- What is added is there for every reader, as long as there is room for it. -/
theorem available_add (trim : queue.Trim) (on : queue.synched = true)
    (serves : queue.Serves reader) {data : Bytes}
    (room : queue.available reader + data.length ≤ queue.capacity) :
    (queue.add data).available reader = queue.available reader + data.length := by
  have place := List.getElem?_eq_getElem serves.inside
  have behind := trim _ (List.getElem_mem serves.inside)
  simp only [available, position, head?, add_heads, add_capacity, place, Option.map_some,
    Option.getD_some, queue.add_written data on] at room ⊢
  omega

/-- More than what is added never comes to be there. -/
theorem available_add_le (queue : ActionQueue) (reader : UInt8) (data : Bytes) :
    (queue.add data).available reader ≤ queue.available reader + data.length := by
  cases on : queue.synched with
  | true =>
      simp only [available, position, head?, add_heads, add_capacity, queue.add_written data on]
      cases queue.heads[reader.toNat - 1]? with
      | none =>
          simp only [Option.map_none, Option.getD_none]
          omega
      | some head =>
          simp only [Option.map_some, Option.getD_some]
          omega
  | false =>
      rw [queue.add_of_not_synched data on]
      exact Nat.le_add_right _ _

/-- A queue that is still in synchrony has as much for its readers as before. -/
theorem Fades.available (fades : queue.Fades later) (on : later.synched = true) :
    later.available reader = queue.available reader := by
  obtain ⟨written, -, heads⟩ := fades.kept on
  simp only [ActionQueue.available, position, head?, written, heads, fades.capacity]

end Available

end ActionQueue

/-! ## Merges -/

namespace Merge

/-- The bytes that a merge is still to take from the queue in a place. -/
def due (merge : Merge) (slot : Nat) : Nat :=
  (merge.actions - visits merge.players merge.parts.length slot) * merge.share

/-- What a merge keeps from its beginning to its end. -/
def errand (merge : Merge) : Merge := { merge with parts := [], timeouts := 0 }

/-- With each share there is one less to be taken from the queue whose turn it is. -/
theorem due_take {merge : Merge} (more : merge.parts.length < merge.actions * merge.players)
    {slot : Nat} (inside : slot < merge.players) (part : Bytes) :
    (merge.take part).due slot + (if merge.slot = slot then merge.share else 0) =
      merge.due slot := by
  have next := visits_succ merge.parts.length inside
  by_cases turn : merge.slot = slot
  · have seen : visits merge.players merge.parts.length slot < merge.actions := by
      rw [← turn, Merge.slot, visits_slot]
      exact Nat.div_lt_of_lt_mul (Nat.mul_comm .. ▸ more)
    have left : merge.actions - visits merge.players merge.parts.length slot =
        merge.actions - (visits merge.players merge.parts.length slot + 1) + 1 := by omega
    rw [if_pos turn]
    rw [if_pos (show merge.parts.length % merge.players = slot from turn)] at next
    simp only [due, take, List.length_cons, next]
    rw [left, Nat.succ_mul]
  · rw [if_neg turn]
    rw [if_neg (show ¬ merge.parts.length % merge.players = slot from turn)] at next
    simp only [due, take, List.length_cons, next, Nat.add_zero]

/-- A complete merge takes nothing more. -/
theorem due_complete {merge : Merge} (complete : merge.actions * merge.players ≤ merge.parts.length)
    (positive : 0 < merge.players) (slot : Nat) : merge.due slot = 0 := by
  have rounds : merge.actions ≤ merge.parts.length / merge.players :=
    (Nat.le_div_iff_mul_le positive).mpr complete
  rw [due, visits, Nat.sub_eq_zero_of_le (Nat.le_trans rounds (Nat.le_add_right _ _)), Nat.zero_mul]

/-- No more than all its actions are left to be taken. -/
theorem due_le (merge : Merge) (slot : Nat) : merge.due slot ≤ merge.actions * merge.share :=
  Nat.mul_le_mul_right _ (Nat.sub_le _ _)

/-- At first they all are. -/
theorem due_begun {merge : Merge} (fresh : merge.parts = []) (slot : Nat) :
    merge.due slot = merge.actions * merge.share := by
  rw [due, fresh, List.length_nil, visits_zero, Nat.sub_zero]

end Merge

/-- The game merges, and all queues of its round are in synchrony. -/
structure Game.Lit (game : Game) : Prop where
  merges : game.synched = true
  on : game.queues ≠ []
  all : ∀ queue ∈ game.queues, queue.synched = true

/-- A read of a merge concerns a queue of the current round, or none of them. -/
theorem Game.setQueueAt_cases {game : Game} {round slot : Nat} {queue : ActionQueue}
    (place : game.queueAt? round slot = some queue) (later : ActionQueue) :
    ∃ queues ended, game.setQueueAt round slot later =
        { game with queues := queues, ended := ended } ∧
      (queues = game.queues ∧ (game.queues ≠ [] → round ≠ game.round) ∨
        round = game.round ∧ game.queues[slot]? = some queue ∧
          queues = game.queues.set slot later) := by
  unfold setQueueAt
  unfold queueAt? at place
  split
  · rename_i current
    rw [if_pos current] at place
    exact ⟨_, _, rfl, .inr ⟨current.1, place, rfl⟩⟩
  · rename_i past
    exact ⟨_, _, rfl, .inl ⟨rfl, fun on same => past ⟨same, on⟩⟩⟩

namespace Arena

/-- The bytes in the queue in a place that a reader has not read. -/
def unread (arena : Arena) (slot : Nat) (reader : UInt8) : Nat :=
  ((arena.game.queues[slot]?).map (·.available reader)).getD 0

/-- The bytes that a merge is still to take from the queue in a place for a reader of the
current round. -/
def claims (arena : Arena) (slot : Nat) (reader : UInt8) (merge : Merge) : Nat :=
  if merge.round = arena.game.round ∧ merge.reader = reader then merge.due slot else 0

/-- The bytes that all merges in flight are still to take there. -/
def owed (arena : Arena) (hand : Option Merge) (slot : Nat) (reader : UInt8) : Nat :=
  ((arena.carried hand).map (arena.claims slot reader)).sum

/-- No reader of the current round is ahead of its queues. -/
def Trim (arena : Arena) : Prop := ∀ queue ∈ arena.game.queues, queue.Trim

/-- Work on merges keeps the round and its seats.  As long as no queue goes out of
synchrony, readers have read what is owed less. -/
structure Balances (arena : Arena) (hand : Option Merge) (after : Arena)
    (later : Option Merge) : Prop where
  round : after.game.round = arena.game.round
  actions : after.game.actionsPerMessage = arena.game.actionsPerMessage
  status : after.game.status = arena.game.status
  seats : after.game.seats = arena.game.seats
  errands : ∀ merge ∈ after.carried later, ∃ earlier ∈ arena.carried hand,
    earlier.errand = merge.errand
  lit : after.game.Lit → arena.game.Lit
  trim : arena.Trim → after.Trim
  balance : after.game.Lit → arena.Trim → ∀ slot < arena.game.queues.length,
    ∀ reader ≠ 0, after.unread slot reader + arena.owed hand slot reader =
        arena.unread slot reader + after.owed later slot reader ∧
      after.unread slot reader ≤ arena.unread slot reader

section Work

variable {arena after last : Arena} {hand later final : Option Merge} {slot : Nat}
  {reader : UInt8}

theorem unread_of_place {queue : ActionQueue} (place : arena.game.queues[slot]? = some queue)
    (reader : UInt8) : arena.unread slot reader = queue.available reader := by
  rw [unread, place]
  rfl

@[simp] theorem owed_hand (arena : Arena) (merge : Merge) (slot : Nat) (reader : UInt8) :
    arena.owed (some merge) slot reader =
      arena.claims slot reader merge + arena.owed none slot reader := by
  rw [owed, carried_hand, List.map_cons, List.sum_cons, owed]

namespace Balances

theorem trans (one : arena.Balances hand after later) (two : after.Balances later last final) :
    arena.Balances hand last final where
  round := two.round.trans one.round
  actions := two.actions.trans one.actions
  status := two.status.trans one.status
  seats := two.seats.trans one.seats
  errands := fun merge member => by
    obtain ⟨middle, middleMember, same⟩ := two.errands merge member
    obtain ⟨earlier, earlierMember, before⟩ := one.errands middle middleMember
    exact ⟨earlier, earlierMember, before.trans same⟩
  lit := fun lit => one.lit (two.lit lit)
  trim := fun trim => two.trim (one.trim trim)
  balance := fun lit trim slot inside reader positive => by
    have length : after.game.queues.length = arena.game.queues.length := by
      rw [← Game.length_seats, one.seats, Game.length_seats]
    obtain ⟨first, less⟩ := one.balance (two.lit lit) trim slot inside reader positive
    obtain ⟨second, lesser⟩ :=
      two.balance lit (one.trim trim) slot (length ▸ inside) reader positive
    exact ⟨by omega, Nat.le_trans lesser less⟩

/-- Queues, merges and what a reader is owed are as before, perhaps in another order. -/
theorem of_same (round : after.game.round = arena.game.round)
    (actions : after.game.actionsPerMessage = arena.game.actionsPerMessage)
    (status : after.game.status = arena.game.status)
    (queues : after.game.queues = arena.game.queues)
    (merges : after.game.synched = true → arena.game.synched = true)
    (perm : (after.carried later).Perm (arena.carried hand)) :
    arena.Balances hand after later where
  round := round
  actions := actions
  status := status
  seats := by rw [Game.seats, queues, Game.seats]
  errands := fun merge member => ⟨merge, perm.mem_iff.mp member, rfl⟩
  lit := fun lit => ⟨merges lit.merges, queues ▸ lit.on, queues ▸ lit.all⟩
  trim := fun trim => by
    rw [Trim, queues]
    exact trim
  balance := fun _ _ slot _ reader _ => by
    have claims : after.claims slot reader = arena.claims slot reader := by
      funext merge
      rw [Arena.claims, Arena.claims, round]
    have unread : after.unread slot reader = arena.unread slot reader := by
      rw [Arena.unread, Arena.unread, queues]
    have owed : after.owed later slot reader = arena.owed hand slot reader := by
      rw [Arena.owed, Arena.owed, claims]
      exact (perm.map _).sum_nat
    rw [unread, owed]
    exact ⟨rfl, Nat.le_refl _⟩

theorem refl (arena : Arena) (hand : Option Merge) : arena.Balances hand arena hand :=
  of_same rfl rfl rfl rfl id (.refl _)

/-- Queues may go out of synchrony. -/
theorem of_dims {game : Game} (dims : arena.game.Dims game) (hand : Option Merge) :
    arena.Balances hand (arena.become { arena.room with game := game }) hand := by
  have perm : ((arena.become { arena.room with game := game }).carried hand).Perm
      (arena.carried hand) := carried_perm dims.inFlight
  have length : game.queues.length = arena.game.queues.length := dims.queues.1
  constructor
  · exact dims.round
  · obtain ⟨_, _, _, _, frame⟩ := dims.frame
    rw [frame]
    rfl
  · exact dims.status
  · exact dims.seats
  · exact fun merge member => ⟨merge, perm.mem_iff.mp member, rfl⟩
  · intro lit
    refine ⟨dims.synched lit.merges, fun none => lit.on ?_, fun queue member => ?_⟩
    · exact List.eq_nil_of_length_eq_zero (length.trans (congrArg List.length none))
    · obtain ⟨slot, inside, rfl⟩ := List.getElem_of_mem member
      have place := List.getElem?_eq_getElem (length.symm ▸ inside)
      obtain ⟨queue, queuePlace, fades⟩ := dims.queues.2 slot _ place
      rw [List.getElem?_eq_getElem inside] at queuePlace
      cases queuePlace
      exact fades.synched (lit.all _ (List.mem_of_getElem? place))
  · intro trim later member
    obtain ⟨slot, place⟩ := List.getElem?_of_mem member
    obtain ⟨queue, queuePlace, fades⟩ := dims.queues.2 slot later place
    exact fades.trim (trim queue (List.mem_of_getElem? queuePlace))
  · intro lit _ slot inside reader _
    have place := List.getElem?_eq_getElem (length.symm ▸ inside)
    obtain ⟨queue, queuePlace, fades⟩ := dims.queues.2 slot _ place
    have unread : (arena.become { arena.room with game := game }).unread slot reader =
        arena.unread slot reader := by
      rw [unread_of_place queuePlace, unread_of_place place]
      exact fades.available (lit.all _ (List.mem_of_getElem? place))
    have claims : (arena.become { arena.room with game := game }).claims slot reader =
        arena.claims slot reader := by
      funext merge
      rw [Arena.claims, Arena.claims]
      exact if_congr (by rw [← dims.round]; rfl) rfl rfl
    have owed : (arena.become { arena.room with game := game }).owed hand slot reader =
        arena.owed hand slot reader := by
      rw [Arena.owed, Arena.owed, claims]
      exact (perm.map _).sum_nat
    rw [unread, owed]
    exact ⟨rfl, Nat.le_refl _⟩

/-- A time-out is counted. -/
theorem lapse (arena : Arena) (merge : Merge) (timeouts : Nat) :
    arena.Balances (some merge) arena (some { merge with timeouts := timeouts }) where
  round := rfl
  actions := rfl
  status := rfl
  seats := rfl
  errands := fun other member => by
    rcases List.mem_cons.mp member with rfl | old
    · exact ⟨merge, List.mem_cons_self, rfl⟩
    · exact ⟨other, List.mem_cons_of_mem _ old, rfl⟩
  lit := id
  trim := id
  balance := fun _ _ slot _ reader _ => by
    rw [owed_hand, owed_hand]
    exact ⟨rfl, Nat.le_refl _⟩

/-- A merge that is over is dismissed: it is complete, or the game merges no more. -/
theorem dismiss {merge : Merge} (positive : 0 < merge.players)
    (done : arena.game.synched = false ∨ merge.actions * merge.players ≤ merge.parts.length) :
    arena.Balances (some merge) arena none where
  round := rfl
  actions := rfl
  status := rfl
  seats := rfl
  errands := fun other member => ⟨other, List.mem_cons_of_mem _ member, rfl⟩
  lit := id
  trim := id
  balance := fun lit _ slot _ reader _ => by
    rcases done with off | complete
    · have on := lit.merges
      rw [off] at on
      cases on
    · rw [owed_hand, claims, Merge.due_complete complete positive, ite_self, Nat.zero_add]
      exact ⟨rfl, Nat.le_refl _⟩

/-- What a share makes of the claims of its merge. -/
theorem claims_take {merge : Merge} (more : merge.parts.length < merge.actions * merge.players)
    (inside : slot < merge.players) (part : Bytes) (reader : UInt8) :
    arena.claims slot reader (merge.take part) +
        (if merge.round = arena.game.round ∧ merge.reader = reader ∧ merge.slot = slot then
          merge.share else 0) = arena.claims slot reader merge := by
  have due := Merge.due_take more inside part
  unfold claims
  by_cases own : merge.round = arena.game.round ∧ merge.reader = reader
  · rw [if_pos own, if_pos (show (merge.take part).round = _ ∧ (merge.take part).reader = _
      from own), ← due]
    simp only [own.1, own.2, true_and]
  · rw [if_neg own, if_neg (show ¬ ((merge.take part).round = _ ∧ (merge.take part).reader = _)
      from own), if_neg fun all => own ⟨all.1, all.2.1⟩]

/-- A share is collected. -/
theorem take {merge : Merge} (sound : arena.Sound (some merge))
    (more : merge.parts.length < merge.actions * merge.players) {queue later : ActionQueue}
    {part : Bytes} (place : arena.game.queueAt? merge.round merge.slot = some queue)
    (read : queue.read merge.reader merge.share false = .actions part later) :
    arena.Balances (some merge)
      (arena.become
        { arena.room with game := arena.game.setQueueAt merge.round merge.slot later })
      (some (merge.take part)) := by
  obtain ⟨queues, ended, frame, change⟩ := Game.setQueueAt_cases place later
  obtain ⟨-, -, -, players⟩ := sound.ledger.merges merge.tag List.mem_cons_self
  have players : merge.players = (arena.game.roundQueues merge.round).length := players
  generalize afterIs : arena.become
    { arena.room with game := arena.game.setQueueAt merge.round merge.slot later } = after
  have game : after.game = { arena.game with queues := queues, ended := ended } := by
    rw [← frame, ← afterIs]
    rfl
  have carried : ∀ hand, after.carried hand = arena.carried hand := fun hand => by
    rw [Arena.carried, game]
    rfl
  have claims : ∀ slot reader, after.claims slot reader = arena.claims slot reader :=
    fun slot reader => by
      funext other
      rw [Arena.claims, Arena.claims, game]
  have owed : ∀ slot reader, after.owed none slot reader = arena.owed none slot reader :=
    fun slot reader => by rw [Arena.owed, Arena.owed, carried, claims]
  have errands : ∀ other ∈ after.carried (some (merge.take part)),
      ∃ earlier ∈ arena.carried (some merge), earlier.errand = other.errand := by
    intro other member
    rw [carried] at member
    rcases List.mem_cons.mp member with rfl | old
    · exact ⟨merge, List.mem_cons_self, rfl⟩
    · exact ⟨other, List.mem_cons_of_mem _ old, rfl⟩
  rcases change with ⟨rfl, past⟩ | ⟨current, here, rfl⟩
  · -- A queue of an ended round was read, on which nobody of the current one has a claim.
    refine ⟨by rw [game], by rw [game], by rw [game], by rw [Game.seats, game, Game.seats],
      errands, fun lit => ?_, fun trim => ?_, fun lit _ slot _ reader _ => ?_⟩
    · rw [game] at lit
      exact ⟨lit.merges, lit.on, lit.all⟩
    · rw [Trim, game]
      exact trim
    · have on : arena.game.queues ≠ [] := by
        rw [game] at lit
        exact lit.on
      have apart : ∀ other : Merge, other.round = merge.round →
          arena.claims slot reader other = 0 := fun other same =>
        if_neg fun own => past on (same.symm.trans own.1)
      rw [owed_hand, owed_hand, claims, owed, apart merge rfl, apart (merge.take part) rfl,
        unread, unread, game]
      exact ⟨rfl, Nat.le_refl _⟩
  · have on : arena.game.queues ≠ [] := List.ne_nil_of_mem (List.mem_of_getElem? here)
    have width : arena.game.queues.length = merge.players := by
      rw [current, Game.roundQueues_current on] at players
      exact players.symm
    have inside := (List.getElem?_eq_some_iff.mp here).1
    obtain ⟨heads, same, count⟩ := ActionQueue.read_keeps read
    have there : after.game.queues[merge.slot]? = some later := by
      rw [game]
      exact List.getElem?_set_self inside
    have others : ∀ slot, merge.slot ≠ slot →
        after.game.queues[slot]? = arena.game.queues[slot]? := fun slot turn => by
      rw [game]
      exact List.getElem?_set_ne turn
    refine ⟨by rw [game], by rw [game], by rw [game], ?_, errands, fun lit => ?_,
      fun trim => ?_, fun lit trim slot within reader positive => ?_⟩
    · rw [Game.seats, game]
      exact fields_set here (by rw [same, ActionQueue.seat, ActionQueue.seat, count])
    · refine ⟨by rw [game] at lit; exact lit.merges, on, fun other member => ?_⟩
      obtain ⟨slot, otherPlace⟩ := List.getElem?_of_mem member
      by_cases turn : merge.slot = slot
      · rw [← turn, here] at otherPlace
        cases otherPlace
        have shines := lit.all later (List.mem_of_getElem? there)
        rw [same] at shines
        exact shines
      · exact lit.all other (List.mem_of_getElem? ((others slot turn).trans otherPlace))
    · rw [Trim, game]
      intro other member
      rcases List.mem_or_eq_of_mem_set member with old | rfl
      · exact trim other old
      · exact (trim queue (List.mem_of_getElem? here)).read read
    · have share : arena.claims slot reader (merge.take part) + _ = _ :=
        claims_take more (width ▸ within) part reader
      simp only [current, true_and] at share
      rw [owed_hand, owed_hand, claims, owed]
      by_cases turn : merge.slot = slot
      · have shines : queue.synched = true := by
          have shines := lit.all later (List.mem_of_getElem? there)
          rw [same] at shines
          exact shines
        have taken := ActionQueue.available_read (trim queue (List.mem_of_getElem? here))
          shines read positive
        rw [unread_of_place (turn ▸ there), unread_of_place (turn ▸ here)]
        simp only [turn, and_true, eq_comm] at share taken
        omega
      · rw [unread, others slot turn]
        simp only [turn, and_false, if_false] at share
        exact ⟨by rw [Arena.unread]; omega, Nat.le_refl _⟩

/-- A merge is parked. -/
theorem park (arena : Arena) (merge : Merge) (deadline : Nat) :
    arena.Balances (some merge) (arena.become (arena.room.park merge deadline)) none := by
  refine of_same rfl rfl rfl rfl id ?_
  have order : List.Perm
      (arena.game.waiting ++ [ParkedMerge.mk merge deadline] ++ arena.game.woken)
      (ParkedMerge.mk merge deadline :: arena.game.inFlight) := by
    rw [List.append_assoc]
    exact List.perm_middle
  exact order.map (·.merge)

/-- A merge is taken off the lists. -/
theorem unpark (sound : arena.Sound none) {parked : ParkedMerge}
    (member : parked ∈ arena.game.inFlight) :
    arena.Balances none (arena.become (arena.room.unpark parked.merge.ticket))
      (some parked.merge) := by
  refine of_same rfl rfl rfl rfl id ?_
  have order := perm_cons_filter sound.tickets member
  rw [Game.inFlight, List.filter_append] at order
  exact order.map (·.merge)

end Balances

/-- Collecting shares, up to the end of the merge or its next wait, keeps the balance. -/
theorem balances_collect {remaining : Nat} {merge : Merge} (sound : arena.Sound (some merge))
    (left : merge.remaining = remaining) :
    arena.Balances (some merge)
      (arena.become (arena.room.collect arena.now merge remaining).1) none := by
  have positive : 0 < merge.players :=
    (sound.ledger.merges merge.tag List.mem_cons_self).2.2.1
  induction remaining generalizing arena merge with
  | zero =>
      have complete : merge.actions * merge.players ≤ merge.parts.length := by
        simp only [Merge.remaining] at left
        omega
      unfold Room.collect
      split
      · exact .dismiss positive (.inr complete)
      · exact .dismiss positive (.inr complete)
  | succ remaining inductionHypothesis =>
      have more : merge.parts.length < merge.actions * merge.players := by
        simp only [Merge.remaining] at left
        omega
      unfold Room.collect
      split
      · rename_i off
        exact .dismiss positive (.inl (by simpa using off))
      · split
        · exact .park ..
        · rename_i queue place
          split
          · rename_i part later read
            refine (Balances.take sound more place read).trans
              (inductionHypothesis (sound.take more place read) ?_ positive)
            simp only [Merge.remaining, Merge.take, List.length_cons] at left ⊢
            omega
          · exact .park ..
          · exact .park ..

/-- So does beginning the read anew once its time has run out. -/
theorem balances_lapsed {merge : Merge} (sound : arena.Sound (some merge))
    (timeout : ReadTimeout) (timeouts : Nat) :
    arena.Balances (some merge)
      (arena.become ((arena.room.noteTimeout timeout).1.collect arena.now
        { merge with timeouts := timeouts } merge.remaining).1) none := by
  obtain ⟨dims, people⟩ := arena.room.noteTimeout_dims timeout
  have noted : (arena.room.noteTimeout timeout).1 =
      ⟨(arena.room.noteTimeout timeout).1.game, arena.room.people⟩ := by
    rw [← people]
  have counted := (sound.lapse timeouts).dims dims
  have balances := (Balances.lapse arena merge timeouts).trans (.of_dims dims _)
  rw [← noted] at counted balances
  exact balances.trans (balances_collect counted rfl)

/-- The queue that a merge reads next is there. -/
theorem Sound.queueAt? {merge : Merge} (sound : arena.Sound (some merge)) :
    ∃ queue, arena.game.queueAt? merge.round merge.slot = some queue := by
  obtain ⟨-, -, positive, players⟩ := sound.ledger.merges merge.tag List.mem_cons_self
  have inside : merge.slot < (arena.game.roundQueues merge.round).length :=
    Nat.lt_of_lt_of_eq (Nat.mod_lt _ positive) players
  exact ⟨_, (Game.queueAt?_eq ..).trans (List.getElem?_eq_getElem inside)⟩

/-- So does retrying a merge. -/
theorem balances_resume {parked : ParkedMerge} (sound : arena.Sound (some parked.merge))
    (more : parked.merge.parts.length < parked.merge.actions * parked.merge.players) :
    arena.Balances (some parked.merge)
      (arena.become (arena.room.resume arena.now parked).1) none := by
  obtain ⟨queue, place⟩ := sound.queueAt?
  have place : arena.room.game.queueAt? parked.merge.round parked.merge.slot = some queue := place
  simp only [Room.resume, place]
  split
  · rename_i part later read
    have fresh := ActionQueue.read_new_of_waited read
    exact (Balances.take sound more place fresh).trans
      (balances_collect (sound.take more place fresh) rfl)
  · exact balances_lapsed sound _ _
  · split
    · exact balances_lapsed sound _ _
    · exact .park ..

theorem balances_retry (sound : arena.Sound none) (ticket : Nat) :
    arena.Balances none (arena.retry ticket) none := by
  unfold Arena.retry
  split
  · exact .refl ..
  · rename_i parked found
    have member := List.mem_of_find?_eq_some found
    obtain rfl : parked.merge.ticket = ticket := by
      simpa using List.find?_some found
    split
    · have resumed := balances_resume (sound.unpark member) (sound.ledger.unfinished parked member)
      exact ((Balances.unpark sound member).trans resumed).trans
        (.of_same rfl rfl rfl rfl id (.refl _))
    · exact .refl ..

end Work

end Arena

end Netplay
