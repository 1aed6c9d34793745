/-
Module: Netplay.Proofs.Ledger
Purpose: The invariant of an arena: its table, its ledger of calls, turns and
  merges, and the players of its rounds in step.
Main exports:
  Room.Orderly, Tag, Arena.Ledger, Arena.Sound, Arena.Ledger.keep
-/
import Netplay.Proofs.ArenaView

namespace Netplay

/-! ## The table -/

/-- Members have their seats.  While the players get ready nothing is merged
and the queues are empty; when a game that is played merges no more, no queue
is left in synchrony.  A message has as many actions as the connection type of
the owner says. -/
structure Room.Orderly (room : Room) : Prop where
  seated : room.game.Seated room.people
  gathering : room.game.status = .synchronizing → room.game.synched = false ∧
    ∀ queue ∈ room.game.queues, queue.IsEmpty
  mute : room.game.status = .playing → room.game.synched = false →
    ∀ queue ∈ room.game.queues, queue.synched = false
  actions : room.game.status ≠ .waiting → room.game.actionsPerMessage =
    (room.people.person room.game.owner).connectionType.toNat

/-- Queues going out of synchrony leave the table in order. -/
theorem Room.Orderly.dims {room : Room} {after : Game} (orderly : room.Orderly)
    (dims : room.game.Dims after) : Room.Orderly { room with game := after } := by
  have seats := dims.seats
  obtain ⟨queues, waiting, woken, synched, rfl⟩ := dims.frame
  constructor
  · exact orderly.seated.of_seats seats rfl rfl Iff.rfl
  · intro gathering
    obtain ⟨off, empty⟩ := orderly.gathering gathering
    refine ⟨?_, dims.queues.isEmpty empty⟩
    cases synched with
    | false => rfl
    | true =>
        have was := dims.synched rfl
        rw [off] at was
        cases was
  · intro playing off
    cases flag : room.game.synched with
    | true => exact dims.mute flag off
    | false => exact dims.queues.silent (orderly.mute playing flag)
  · exact orderly.actions

/-- A game that is played is not one whose players get ready. -/
theorem Game.not_synchronizing {game : Game} (playing : game.status = .playing) :
    game.status ≠ .synchronizing := by
  rw [playing]
  decide

/-! ## The ledger -/

/-- What a merge keeps from its beginning to its end. -/
structure Tag where
  ticket : Nat
  user : UserId
  round : Nat
  players : Nat

/-- The tag of a merge. -/
def Merge.tag (merge : Merge) : Tag :=
  ⟨merge.ticket, merge.user, merge.round, merge.players⟩

namespace Arena

/-- The tags of the merges in flight. -/
def tags (arena : Arena) (hand : Option Merge) : List Tag :=
  (arena.carried hand).map (·.tag)

/-- Nothing has happened yet in the current round. -/
structure Untouched (arena : Arena) (hand : Option Merge) : Prop where
  calls : ∀ call ∈ arena.calls, call.round ≠ arena.game.round
  turns : ∀ turn ∈ arena.turns, turn.round ≠ arena.game.round
  tags : ∀ tag ∈ arena.tags hand, tag.round ≠ arena.game.round

/-- Calls, turns and merges belong to rounds that have begun; the queues that a
merge reads are kept; users have one merge each; and no call of the current
round fails while the game merges, unless a message is too short. -/
structure Ledger (arena : Arena) (hand : Option Merge) : Prop where
  calls : ∀ call ∈ arena.calls, call.round ≤ arena.game.round
  actions : ∀ call ∈ arena.calls, call.round = arena.game.round →
    call.actions = arena.game.actionsPerMessage
  turns : ∀ turn ∈ arena.turns, turn.round ≤ arena.game.round
  merges : ∀ tag ∈ arena.tags hand, tag.round ≤ arena.game.round ∧
    tag.ticket < arena.nextTicket ∧ 0 < tag.players ∧
    tag.players = (arena.game.roundQueues tag.round).length
  users : ((arena.tags hand).map (·.user)).Nodup
  tickets : ((arena.tags hand).map (·.ticket)).Nodup
  unfinished : ∀ parked ∈ arena.game.inFlight,
    parked.merge.parts.length < parked.merge.actions * parked.merge.players
  untouched : arena.game.status = .synchronizing → arena.Untouched hand
  unharmed : arena.game.synched = true → ∀ turn ∈ arena.turns,
    turn.round = arena.game.round → ∀ error, turn.result = some (.error error) →
    ∃ call ∈ arena.calls, call.round = arena.game.round ∧
      call.data.length / call.actions = 0
  quiet : ∀ turn ∈ arena.turns, turn.result ≠ some (.ok ()) → turn.frames = []

/-- The invariant of an arena. -/
structure Sound (arena : Arena) (hand : Option Merge) : Prop where
  orderly : arena.room.Orderly
  ledger : arena.Ledger hand
  inStep : arena.InStep hand

variable {arena after : Arena} {hand later : Option Merge}

theorem map_user_carried (arena : Arena) (hand : Option Merge) :
    (arena.carried hand).map (·.user) = (arena.tags hand).map (·.user) := by
  rw [tags, List.map_map]
  rfl

/-- A merge in flight is all that a user has in flight. -/
theorem Ledger.lone (ledger : arena.Ledger hand) :
    ((arena.carried hand).map (·.user)).Nodup :=
  arena.map_user_carried hand ▸ ledger.users

theorem mem_tags {merge : Merge} (member : merge ∈ arena.carried hand) :
    merge.tag ∈ arena.tags hand :=
  List.mem_map.mpr ⟨merge, member, rfl⟩

/-- Nothing is called or concluded, and the merges keep their tags. -/
theorem Ledger.keep (ledger : arena.Ledger hand) (calls : after.calls = arena.calls)
    (turns : after.turns = arena.turns) (ticket : arena.nextTicket ≤ after.nextTicket)
    (round : after.game.round = arena.game.round)
    (actions : after.game.actionsPerMessage = arena.game.actionsPerMessage)
    (status : after.game.status = .synchronizing → arena.game.status = .synchronizing)
    (synched : after.game.synched = true → arena.game.synched = true ∨
      ∀ turn ∈ arena.turns, turn.round ≠ arena.game.round)
    (tags : (after.tags later).Perm (arena.tags hand))
    (kept : ∀ tag ∈ arena.tags hand, (after.game.roundQueues tag.round).length =
      (arena.game.roundQueues tag.round).length)
    (unfinished : ∀ parked ∈ after.game.inFlight,
      parked.merge.parts.length < parked.merge.actions * parked.merge.players) :
    after.Ledger later where
  calls := by rw [calls, round]; exact ledger.calls
  actions := by rw [calls, round, actions]; exact ledger.actions
  turns := by rw [turns, round]; exact ledger.turns
  merges := by
    intro tag member
    have before := tags.mem_iff.mp member
    obtain ⟨begun, early, positive, players⟩ := ledger.merges tag before
    rw [round, kept tag before]
    exact ⟨begun, Nat.lt_of_lt_of_le early ticket, positive, players⟩
  users := (tags.map _).nodup_iff.mpr ledger.users
  tickets := (tags.map _).nodup_iff.mpr ledger.tickets
  unfinished := unfinished
  untouched := by
    intro gathering
    have before := ledger.untouched (status gathering)
    constructor
    · rw [calls, round]; exact before.calls
    · rw [turns, round]; exact before.turns
    · rw [round]
      exact fun tag member => before.tags tag (tags.mem_iff.mp member)
  unharmed := by
    rw [turns, calls, round]
    intro on turn member here
    rcases synched on with was | none
    · exact ledger.unharmed was turn member here
    · exact absurd here (none turn member)
  quiet := turns ▸ ledger.quiet

/-- While the game merges and its messages are long enough, no call of the
current round has failed. -/
theorem Ledger.succeeds (ledger : arena.Ledger hand) (on : arena.game.synched = true)
    {actions size : Nat} (uniform : arena.Uniform arena.game.round actions size)
    (positive : 0 < actions) (long : 0 < size) {user : UserId} {turn : Turn}
    (ended : turn ∈ arena.returns arena.game.round user) :
    turn.result = some (.ok ()) := by
  obtain ⟨onRecord, keeps⟩ := List.mem_filter.mp ended
  have shape : turn.round = arena.game.round ∧ turn.user = user ∧
      turn.result.isSome := by simpa using keeps
  cases result : turn.result with
  | none =>
      rw [result] at shape
      cases shape.2.2
  | some outcome =>
      cases outcome with
      | ok _ => rfl
      | error error =>
          obtain ⟨call, member, here, short⟩ :=
            ledger.unharmed on turn onRecord shape.1 error result
          obtain ⟨callActions, whole⟩ := uniform call member here
          rw [callActions, whole, Nat.mul_div_cancel_left _ positive] at short
          omega

/-- A merge that is over leaves the ledger. -/
theorem Ledger.dismiss {merge : Merge} (ledger : arena.Ledger (some merge)) :
    arena.Ledger none where
  calls := ledger.calls
  actions := ledger.actions
  turns := ledger.turns
  merges := fun tag member => ledger.merges tag (List.mem_cons_of_mem _ member)
  users := (List.nodup_cons.mp ledger.users).2
  tickets := (List.nodup_cons.mp ledger.tickets).2
  unfinished := ledger.unfinished
  untouched := fun gathering =>
    have before := ledger.untouched gathering
    ⟨before.calls, before.turns, fun tag member =>
      before.tags tag (List.mem_cons_of_mem _ member)⟩
  unharmed := ledger.unharmed
  quiet := ledger.quiet

/-- A turn is put on record. -/
theorem Ledger.note (ledger : arena.Ledger hand) {turn : Turn}
    (begun : turn.round ≤ arena.game.round)
    (touched : arena.game.status = .synchronizing → turn.round ≠ arena.game.round)
    (harm : arena.game.synched = true → turn.round = arena.game.round →
      ∀ error, turn.result = some (.error error) →
      ∃ call ∈ arena.calls, call.round = arena.game.round ∧
        call.data.length / call.actions = 0)
    (quiet : turn.result ≠ some (.ok ()) → turn.frames = []) :
    Ledger { arena with turns := arena.turns ++ [turn] } hand := by
  refine ⟨ledger.calls, ledger.actions, ?_, ledger.merges, ledger.users, ledger.tickets,
    ledger.unfinished, ?_, ?_, ?_⟩
  · exact List.forall_mem_append.mpr ⟨ledger.turns, List.forall_mem_singleton.mpr begun⟩
  · intro gathering
    have before := ledger.untouched gathering
    exact ⟨before.calls, List.forall_mem_append.mpr
      ⟨before.turns, List.forall_mem_singleton.mpr (touched gathering)⟩, before.tags⟩
  · intro on
    exact List.forall_mem_append.mpr
      ⟨ledger.unharmed on, List.forall_mem_singleton.mpr (harm on)⟩
  · exact List.forall_mem_append.mpr
      ⟨ledger.quiet, List.forall_mem_singleton.mpr quiet⟩

/-- A call of the current round is put on record. -/
theorem Ledger.call (ledger : arena.Ledger hand) {call : Call}
    (round : call.round = arena.game.round)
    (actions : call.actions = arena.game.actionsPerMessage)
    (playing : arena.game.status = .playing) :
    Ledger
      { arena with
        nextTicket := arena.nextTicket + 1
        calls := arena.calls ++ [call] } hand := by
  refine ⟨?_, ?_, ledger.turns, ?_, ledger.users, ledger.tickets, ledger.unfinished, ?_,
    ?_, ledger.quiet⟩
  · exact List.forall_mem_append.mpr
      ⟨ledger.calls, List.forall_mem_singleton.mpr (Nat.le_of_eq round)⟩
  · exact List.forall_mem_append.mpr
      ⟨ledger.actions, List.forall_mem_singleton.mpr fun _ => actions⟩
  · intro tag member
    obtain ⟨begun, ticket, players⟩ := ledger.merges tag member
    exact ⟨begun, Nat.lt_succ_of_lt ticket, players⟩
  · exact fun gathering => absurd gathering (Game.not_synchronizing playing)
  · intro on turn member here error failed
    obtain ⟨short, shortMember, isShort⟩ :=
      ledger.unharmed on turn member here error failed
    exact ⟨short, List.mem_append_left _ shortMember, isShort⟩

/-- A merge of the current round is begun. -/
theorem Ledger.hold (ledger : arena.Ledger none) {merge : Merge}
    (ticket : merge.ticket < arena.nextTicket)
    (new : ∀ tag ∈ arena.tags none, tag.ticket ≠ merge.ticket)
    (idle : ∀ tag ∈ arena.tags none, tag.user ≠ merge.user)
    (round : merge.round = arena.game.round) (positive : 0 < merge.players)
    (players : merge.players = (arena.game.roundQueues merge.round).length)
    (playing : arena.game.status = .playing) : arena.Ledger (some merge) := by
  refine ⟨ledger.calls, ledger.actions, ledger.turns, ?_, ?_, ?_, ledger.unfinished, ?_,
    ledger.unharmed, ledger.quiet⟩
  · intro tag member
    rcases List.mem_cons.mp member with rfl | before
    · exact ⟨Nat.le_of_eq round, ticket, positive, players⟩
    · exact ledger.merges tag before
  · refine List.nodup_cons.mpr ⟨fun member => ?_, ledger.users⟩
    obtain ⟨tag, before, same⟩ := List.mem_map.mp member
    exact idle tag before same
  · refine List.nodup_cons.mpr ⟨fun member => ?_, ledger.tickets⟩
    obtain ⟨tag, before, same⟩ := List.mem_map.mp member
    exact new tag before same
  · exact fun gathering => absurd gathering (Game.not_synchronizing playing)

end Arena

end Netplay
