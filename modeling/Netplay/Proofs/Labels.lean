/-
Module: Netplay.Proofs.Labels
Purpose: The queues of every round that is kept stand in the order of player numbers,
  each with a head for every player, and every merge finds its round.
Main exports:
  Label, Game.labels, Game.Hosts, Game.Slotted, Room.Chores.slotted, Room.Turn.slotted,
  Game.Reached.slotted, Game.Slotted.finds
-/
import Netplay.Proofs.Deeds

namespace Netplay

/-! ## Labels of queues -/

/-- What a queue keeps as long as it is there: the number of its player, the user it
belongs to, and how many readers it has. -/
structure Label where
  player : UInt8
  user : UserId
  readers : Nat
deriving Repr, DecidableEq

/-- The label of a queue. -/
def ActionQueue.label (queue : ActionQueue) : Label :=
  ⟨queue.player, queue.user, queue.heads.length⟩

/-- Coming into or out of synchrony does not change it. -/
theorem ActionQueue.label_setSynched (queue : ActionQueue) (synched : Bool) :
    (queue.setSynched synched).label = queue.label := by
  have readers := congrArg Seat.readers (queue.seat_setSynched synched)
  rw [label, setSynched_player, setSynched_user, label]
  exact congrArg _ readers

/-- Nor does anything that happens to a queue at work. -/
theorem ActionQueue.Ages.label {queue later : ActionQueue} (ages : queue.Ages later) :
    later.label = queue.label := by
  have user := congrArg Seat.user ages.seat
  have readers := congrArg Seat.readers ages.seat
  exact Label.mk.injEq .. ▸ ⟨ages.player, user, readers⟩

/-- Players are numbered from one on, and each queue is for all of them. -/
def InOrder (labels : List Label) : Prop :=
  ∀ (slot : Nat) (label : Label), labels[slot]? = some label →
    label.player.toNat = slot + 1 ∧ label.readers = labels.length

theorem inOrder_nil : InOrder [] := fun _ _ place => by cases place

namespace Game

variable {game after : Game} {merge : Merge}

/-- The labels of the queues of a round, in order; none when they are not kept. -/
def labels (game : Game) (round : Nat) : List Label :=
  (game.roundQueues round).map (·.label)

/-- Work on merges changes no label. -/
theorem labels_works (works : game.Works after) (round : Nat) :
    after.labels round = game.labels round := by
  apply fields_eq (works.rounds round).length
  intro slot later place
  obtain ⟨queue, before, ages⟩ := (works.rounds round).each slot later place
  exact ⟨queue, before, ages.label⟩

/-- Labels are those of the queues that are there. -/
theorem labels_of_queues (queues : after.queues.map (·.label) = game.queues.map (·.label))
    (round : after.round = game.round) (ended : after.ended = game.ended) (number : Nat) :
    after.labels number = game.labels number := by
  have none : after.queues = [] ↔ game.queues = [] := by
    rw [← List.map_eq_nil_iff (f := (·.label)), queues, List.map_eq_nil_iff]
  unfold labels roundQueues
  rw [round]
  by_cases current : number = game.round ∧ game.queues ≠ []
  · rw [if_pos current, if_pos ⟨current.1, fun gone => current.2 (none.mp gone)⟩]
    exact queues
  · rw [if_neg current, if_neg fun now => current ⟨now.1, fun gone => now.2 (none.mpr gone)⟩,
      endedQueues, endedQueues, ended]

/-- A round that starts is labelled in order. -/
theorem inOrder_startQueues (few : game.members.length ≤ game.settings.maxPlayers.toNat) :
    InOrder (game.startQueues.map (·.label)) := by
  intro slot label place
  rw [List.getElem?_map] at place
  obtain ⟨queue, queuePlace, rfl⟩ := Option.map_eq_some_iff.mp place
  refine ⟨player_startQueues few queuePlace, ?_⟩
  rw [List.length_map, length_startQueues]
  rw [getElem?_startQueues] at queuePlace
  obtain ⟨member, memberPlace, rfl⟩ := Option.map_eq_some_iff.mp queuePlace
  have inside := (List.getElem?_eq_some_iff.mp memberPlace).1
  exact (List.length_replicate ..).trans (by omega)

/-! ## Rounds and their merges -/

/-- The queues of the merge's round are there, one for each player, and its reader is
the number of one of these. -/
structure Hosts (game : Game) (merge : Merge) : Prop where
  past : merge.round ≤ game.round
  players : (game.labels merge.round).length = merge.players
  positive : merge.reader ≠ 0
  among : merge.reader.toNat ≤ merge.players

/-- The queues of all rounds are in order, and every merge in flight has its round. -/
structure Slotted (game : Game) : Prop where
  few : game.members.length ≤ game.settings.maxPlayers.toNat
  idle : game.status = .waiting → game.queues = []
  users : game.queueUsers = game.queues.map (·.user)
  inOrder : ∀ round, InOrder (game.labels round)
  hosts : ∀ parked ∈ game.inFlight, game.Hosts parked.merge

/-- A merge keeps its place as long as its round keeps its labels. -/
theorem Hosts.of_labels (hosts : game.Hosts merge) (round : game.round ≤ after.round)
    (labels : after.labels merge.round = game.labels merge.round) : after.Hosts merge :=
  ⟨Nat.le_trans hosts.past round, (congrArg List.length labels).trans hosts.players,
    hosts.positive, hosts.among⟩

theorem Hosts.works (hosts : game.Hosts merge) (works : game.Works after) :
    after.Hosts merge := by
  refine hosts.of_labels (Nat.le_of_eq ?_) (labels_works works _)
  obtain ⟨_, _, _, _, _, frame⟩ := works.frame
  rw [frame]

namespace Slotted

/-- The queue that a merge reads next is there, it is the one that belongs there, and it
has a head for the reader. -/
theorem finds (slotted : game.Slotted) (hosts : game.Hosts merge) :
    ∃ queue, game.queueAt? merge.round merge.slot = some queue ∧
      queue.player.toNat = merge.slot + 1 ∧ queue.Serves merge.reader := by
  have positive : 0 < merge.reader.toNat :=
    Nat.pos_of_ne_zero fun zero => hosts.positive (UInt8.toNat_inj.mp zero)
  have inside : merge.slot < (game.roundQueues merge.round).length := by
    have length : (game.roundQueues merge.round).length = merge.players :=
      (List.length_map ..).symm.trans hosts.players
    rw [length]
    exact Nat.mod_lt _ (Nat.lt_of_lt_of_le positive hosts.among)
  have place := List.getElem?_eq_getElem inside
  obtain ⟨number, readers⟩ := slotted.inOrder merge.round merge.slot _
    ((List.getElem?_map ..).trans (congrArg (Option.map (·.label)) place))
  refine ⟨_, (queueAt?_eq ..).trans place, number, hosts.positive, ?_⟩
  exact Nat.le_trans hosts.among (Nat.le_of_eq (hosts.players.symm.trans readers.symm))

/-- Work on merges keeps the order.  It may put back what was taken off the lists. -/
theorem works (slotted : game.Slotted) (works : game.Works after)
    (flight : ∀ parked ∈ after.inFlight, parked ∈ game.inFlight ∨ game.Hosts parked.merge) :
    after.Slotted where
  few := by
    obtain ⟨_, _, _, _, _, frame⟩ := works.frame
    rw [frame]
    exact slotted.few
  idle := fun waiting => by
    have status : after.status = game.status := by
      obtain ⟨_, _, _, _, _, frame⟩ := works.frame
      rw [frame]
    exact works.queues.eq_nil_iff.mpr (slotted.idle (status.symm.trans waiting))
  users := by
    have users : after.queues.map (·.user) = game.queues.map (·.user) := by
      apply fields_eq works.queues.length
      intro slot later place
      obtain ⟨queue, before, ages⟩ := works.queues.each slot later place
      exact ⟨queue, before, congrArg Seat.user ages.seat⟩
    obtain ⟨_, _, _, _, _, frame⟩ := works.frame
    rw [users, frame]
    exact slotted.users
  inOrder := fun round => by
    rw [labels_works works]
    exact slotted.inOrder round
  hosts := fun parked member =>
    (flight parked member).elim (fun old => (slotted.hosts parked old).works works)
      fun hosts => hosts.works works

theorem dims (slotted : game.Slotted) (dims : game.Dims after) : after.Slotted :=
  slotted.works (.of_dims dims) fun _ member => .inl (dims.inFlight.mem_iff.mp member)

/-- So does everything that leaves the labels alone. -/
theorem of_queues (slotted : game.Slotted)
    (few : after.members.length ≤ after.settings.maxPlayers.toNat)
    (idle : after.status = .waiting → game.status = .waiting)
    (queues : after.queues.map (·.label) = game.queues.map (·.label))
    (users : after.queueUsers = game.queueUsers) (round : after.round = game.round)
    (ended : after.ended = game.ended) (flight : after.inFlight = game.inFlight) :
    after.Slotted where
  few := few
  idle := fun waiting => by
    rw [slotted.idle (idle waiting)] at queues
    exact List.map_eq_nil_iff.mp queues
  users := by
    have same := congrArg (List.map Label.user) queues
    rw [List.map_map, List.map_map] at same
    exact users.trans (slotted.users.trans same.symm)
  inOrder := fun number => by
    rw [labels_of_queues queues round ended]
    exact slotted.inOrder number
  hosts := fun parked member => (slotted.hosts parked (flight ▸ member)).of_labels
    (Nat.le_of_eq round.symm) (labels_of_queues queues round ended _)

/-- A round that ends leaves its queues to the merges that still read them. -/
theorem endRound (slotted : game.Slotted) (status : GameStatus) :
    Slotted { game.endRound with status := status } := by
  have keeps := Keeps.endRound game
  have none := game.queues_endRound
  have flight := game.inFlight_endRound
  have round := game.round_endRound
  have ended : game.endRound.Slotted := by
    refine ⟨?_, fun _ => none, ?_, fun number => ?_, fun parked member => ?_⟩
    · rw [keeps.members, keeps.settings]
      exact slotted.few
    · have users := slotted.users
      unfold Game.endRound
      split
      · exact users
      · rfl
    · by_cases kept : game.endRound.roundQueues number = []
      · rw [labels, kept]
        exact inOrder_nil
      · rw [labels, roundQueues_endRound_eq kept]
        exact slotted.inOrder number
    · rw [flight] at member
      have kept : game.endRound.labels parked.merge.round = game.labels parked.merge.round := by
        rw [labels, roundQueues_endRound_kept member, labels]
      exact (slotted.hosts parked member).of_labels (Nat.le_of_eq round.symm) kept
  exact ⟨ended.few, fun _ => none, ended.users, ended.inOrder,
    fun parked member => (ended.hosts parked member).of_labels (Nat.le_refl _) rfl⟩

/-- A round that starts gives every member a queue, and takes none from a merge. -/
theorem commence (slotted : game.Slotted) (none : game.queues = []) (actions : Nat) :
    (game.commence actions).Slotted := by
  have others (round : Nat) (past : round ≠ game.round + 1) :
      (game.commence actions).labels round = game.labels round := by
    rw [labels, labels, roundQueues_of_ne past, roundQueues, if_neg fun current => current.2 none]
    rfl
  refine ⟨slotted.few, fun waiting => ?_, game.users_startQueues.symm, fun round => ?_,
    fun parked member => ?_⟩
  · cases waiting
  · by_cases now : round = game.round + 1 ∧ game.startQueues ≠ []
    · have queues : (game.commence actions).roundQueues round = game.startQueues := if_pos now
      rw [labels, queues]
      exact inOrder_startQueues slotted.few
    · have before : (game.commence actions).roundQueues round = game.roundQueues round :=
        (if_neg now).trans (if_neg fun current => current.2 none).symm
      rw [labels, before]
      exact slotted.inOrder round
  · have hosts := slotted.hosts parked member
    exact hosts.of_labels (Nat.le_succ _) (others _ (Nat.ne_of_lt (Nat.lt_succ_of_le hosts.past)))

end Slotted

/-- A game that was just created has no queues at all. -/
theorem slotted_create (number : GameId) (name : String) (owner : User)
    (settings : GameSettings) : (Game.create number name owner settings).Slotted where
  few := Nat.zero_le _
  idle := fun _ => rfl
  users := rfl
  inOrder := fun round => by
    have none : (Game.create number name owner settings).labels round = [] := by
      rw [labels, roundQueues, if_neg fun current => current.2 rfl]
      rfl
    rw [none]
    exact inOrder_nil
  hosts := fun _ member => by cases member

end Game

/-! ## What operations leave of the order -/

namespace Room

variable {room after : Room}

/-- Every chore keeps the order and the place of the merge in hand. -/
theorem Chore.slotted {sent : UserId → Bytes → Prop} {people : Roster} {game later : Game}
    {hand last : Option Merge} {letters : List Letter}
    (chore : Chore sent people game hand letters later last)
    (before : game.Slotted ∧ ∀ merge ∈ hand, game.Hosts merge) :
    later.Slotted ∧ ∀ merge ∈ last, later.Hosts merge := by
  have works := chore.works
  obtain ⟨slotted, hosts⟩ := before
  cases chore with
  | @hear user data slot ticket sent on seat =>
      have some : game.queues ≠ [] := Game.queues_ne_nil_of_slotFor? seat
      refine ⟨slotted.works works fun parked member => .inl ?_, ?_⟩
      · unfold Game.hear at member
        split at member
        · exact (Game.dims_wake ..).inFlight.mem_iff.mp member
        · exact member
      · rintro merge ⟨⟩
        unfold Game.slotFor? at seat
        split at seat
        · cases seat
        · rename_i inside
          rw [not_or, Nat.not_lt] at inside
          have begun : game.Hosts (game.begin ticket user (people.person user).player data) := by
            refine ⟨Nat.le_refl _, ?_, inside.1, inside.2⟩
            rw [Game.labels, List.length_map]
            exact congrArg List.length (Game.roundQueues_current some)
          exact begun.works works
  | @take parked flight =>
      refine ⟨slotted.works works fun other member => .inl ?_, ?_⟩
      · unfold Game.unpark Game.inFlight at member
        rw [← List.filter_append] at member
        exact (List.mem_filter.mp member).1
      · rintro merge ⟨⟩
        exact (slotted.hosts parked flight).works works
  | @read merge queue reads part waited place answered =>
      refine ⟨slotted.works works fun parked member => .inl ?_, ?_⟩
      · obtain ⟨_, _, frame, -⟩ := game.setQueueAt_frame merge.round merge.slot reads
        rw [frame] at member
        exact member
      · rintro taken ⟨⟩
        obtain ⟨past, players, positive, among⟩ := (hosts merge rfl).works works
        exact ⟨past, players, positive, among⟩
  | @lapse merge queue place =>
      have dims := (noteTimeout_dims ⟨game, people⟩
        ⟨queue.player, queue.user, merge.timeouts + 1⟩).1
      refine ⟨slotted.dims dims, ?_⟩
      rintro taken ⟨⟩
      obtain ⟨past, players, positive, among⟩ := (hosts merge rfl).works works
      exact ⟨past, players, positive, among⟩
  | @park merge deadline =>
      refine ⟨slotted.works works fun parked member => ?_, fun _ taken => by cases taken⟩
      rcases List.mem_append.mp member with waits | woken
      · rcases List.mem_append.mp waits with old | new
        · exact .inl (List.mem_append_left _ old)
        · rw [List.mem_singleton.mp new]
          exact .inr (hosts merge rfl)
      · exact .inl (List.mem_append_right _ woken)
  | finish on => exact ⟨slotted, fun _ taken => by cases taken⟩
  | fail => exact ⟨slotted, fun _ taken => by cases taken⟩

/-- So does a row of chores, whatever merge is in hand at its end. -/
theorem Chores.slotted {sent : UserId → Bytes → Prop} {people : Roster} {game later : Game}
    {last : Option Merge} {letters : List Letter}
    (chores : Chores sent people game none letters later last) (slotted : game.Slotted) :
    later.Slotted ∧ ∀ merge ∈ last, later.Hosts merge :=
  chores.keeps (fun game hand => game.Slotted ∧ ∀ merge ∈ hand, game.Hosts merge)
    Chore.slotted ⟨slotted, fun _ taken => by cases taken⟩

/-- Whatever becomes of a room by an operation, the queues stay in order. -/
theorem Turn.slotted {deed : Deed} (turn : room.Turn deed after)
    (slotted : room.game.Slotted) : after.game.Slotted := by
  have bench (id : UserId) (slot : Nat) : (room.bench id slot).game.Slotted := by
    have hushed := slotted.dims (room.game.dims_hush slot)
    unfold Room.bench
    split
    · exact hushed
    · exact hushed.endRound .waiting
  have without {before : Room} (id : UserId) (slotted : before.game.Slotted) :
      (before.without id).game.Slotted :=
    slotted.of_queues (Nat.le_trans (List.length_filter_le ..) slotted.few) (fun waiting => waiting)
      rfl rfl rfl rfl rfl
  cases turn with
  | rest => exact slotted
  | join new waiting space =>
      exact slotted.of_queues (Nat.le_trans (Nat.le_of_eq (List.length_append ..)) space)
        (fun waiting => waiting) rfl rfl rfl rfl rfl
  | start waiting someone actions =>
      exact (slotted.endRound room.game.endRound.status).commence room.game.queues_endRound
        actions
  | @mark id slot gathering =>
      exact slotted.of_queues slotted.few (fun waiting => waiting)
        (fields_modify (·.label_setSynched true) _ slot) rfl rfl rfl rfl
  | @play id slot gathering all =>
      refine slotted.of_queues slotted.few (fun waiting => ?_)
        (fields_modify (·.label_setSynched true) _ slot) rfl rfl rfl rfl
      cases waiting
  | drop member seat => exact bench _ _
  | @quit id member =>
      rcases room.left_cases id with stays | ⟨slot, -, leaves⟩
      · rw [stays]
        exact without id slotted
      · rw [leaves]
        exact without id (bench id slot)
  | bar kicked => exact slotted.of_queues slotted.few (fun waiting => waiting) rfl rfl rfl rfl rfl
  | @close id silent dims off =>
      have closed : Game.Slotted { silent with members := [] } :=
        (slotted.dims dims).of_queues (Nat.zero_le _) (fun waiting => waiting) rfl rfl rfl rfl rfl
      exact closed.endRound _
  | gap slot => exact slotted.dims (room.game.dims_hush slot)
  | work isWork chores => exact (chores.slotted slotted).1

end Room

/-- The queues of every game that can be reached are in order. -/
theorem Game.Reached.slotted {game : Game} (reached : game.Reached) : game.Slotted := by
  induction reached with
  | create number name owner settings => exact Game.slotted_create number name owner settings
  | perform before fits inductionHypothesis =>
      exact (Room.turn_perform fits).slotted inductionHypothesis

end Netplay
