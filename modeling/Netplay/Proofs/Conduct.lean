/-
Module: Netplay.Proofs.Conduct
Purpose: What each operation on a game can do, said once: its refusals, what it
  makes of the game and of the people when it is carried out, and what work on
  merges leaves alone.
Main exports:
  QueuesAge, Game.Works, Room.Works, Room.works_addData, Room.works_resume,
  Room.join_cases, Room.start_outcomes, Room.ready_cases, Room.drop_cases,
  Room.quit_cases, Room.kick_cases, Room.close_cases, Room.droppedPacket_cases
-/
import Netplay.Proofs.Rounds

namespace Netplay

open RoundView (QueuesFade)

/-! ## Queues at work -/

/-- The second queue is the first one at a later time of its round: it keeps its
seat and its number and has not come into synchrony.  In between it may have
been written and read. -/
structure ActionQueue.Ages (queue later : ActionQueue) : Prop where
  player : later.player = queue.player
  seat : later.seat = queue.seat
  synched : later.synched = true → queue.synched = true

namespace ActionQueue.Ages

variable {queue later last : ActionQueue}

theorem refl (queue : ActionQueue) : queue.Ages queue := ⟨rfl, rfl, id⟩

theorem trans (one : queue.Ages later) (two : later.Ages last) : queue.Ages last :=
  ⟨two.player.trans one.player, two.seat.trans one.seat,
    fun flag => one.synched (two.synched flag)⟩

theorem of_fades (fades : queue.Fades later) : queue.Ages later where
  player := fades.player
  seat := by rw [ActionQueue.seat, fades.user, fades.readers, fades.capacity, ActionQueue.seat]
  synched := fades.synched

theorem add (queue : ActionQueue) (data : Bytes) : queue.Ages (queue.add data) where
  player := add_player queue data
  seat := queue.seat_add data
  synched := fun flag => add_synched queue data ▸ flag

theorem read {reader : UInt8} {count : Nat} {waited : Bool} {bytes : Bytes}
    (answered : queue.read reader count waited = .actions bytes later) :
    queue.Ages later := by
  obtain ⟨heads, rfl, length⟩ := read_keeps answered
  exact ⟨rfl, by rw [ActionQueue.seat, ActionQueue.seat, length], id⟩

end ActionQueue.Ages

/-- The queues of a round at a later time. -/
structure QueuesAge (before after : List ActionQueue) : Prop where
  length : after.length = before.length
  each : ∀ (slot : Nat) (later : ActionQueue), after[slot]? = some later →
    ∃ queue, before[slot]? = some queue ∧ queue.Ages later

namespace QueuesAge

variable {before after last : List ActionQueue}

theorem refl (queues : List ActionQueue) : QueuesAge queues queues :=
  ⟨rfl, fun _ later place => ⟨later, place, .refl later⟩⟩

theorem of_eq (same : after = before) : QueuesAge before after :=
  same ▸ refl before

theorem trans (one : QueuesAge before after) (two : QueuesAge after last) :
    QueuesAge before last := by
  refine ⟨two.length.trans one.length, fun slot later place => ?_⟩
  obtain ⟨middle, middlePlace, ages⟩ := two.each slot later place
  obtain ⟨queue, queuePlace, agesBefore⟩ := one.each slot middle middlePlace
  exact ⟨queue, queuePlace, agesBefore.trans ages⟩

theorem of_fade (fade : QueuesFade before after) : QueuesAge before after := by
  refine ⟨fade.1, fun slot later place => ?_⟩
  obtain ⟨queue, queuePlace, fades⟩ := fade.2 slot later place
  exact ⟨queue, queuePlace, .of_fades fades⟩

theorem set {slot : Nat} {queue later : ActionQueue}
    (place : before[slot]? = some queue) (ages : queue.Ages later) :
    QueuesAge before (before.set slot later) := by
  refine ⟨List.length_set .., fun other target targetPlace => ?_⟩
  rw [List.getElem?_set] at targetPlace
  split at targetPlace
  · rename_i same
    subst same
    split at targetPlace
    · cases targetPlace
      exact ⟨queue, place, ages⟩
    · cases targetPlace
  · exact ⟨target, targetPlace, .refl target⟩

theorem modify {change : ActionQueue → ActionQueue}
    (ages : ∀ queue : ActionQueue, queue.Ages (change queue)) (queues : List ActionQueue)
    (slot : Nat) : QueuesAge queues (queues.modify slot change) := by
  refine ⟨List.length_modify .., fun other later place => ?_⟩
  rw [List.getElem?_modify] at place
  obtain ⟨queue, queuePlace, rfl⟩ := Option.map_eq_some_iff.mp place
  refine ⟨queue, queuePlace, ?_⟩
  split
  · exact ages queue
  · exact .refl queue

/-- A queue that is found later was there before. -/
theorem back (age : QueuesAge before after) {later : ActionQueue}
    (member : later ∈ after) : ∃ queue ∈ before, queue.Ages later := by
  obtain ⟨slot, place⟩ := List.getElem?_of_mem member
  obtain ⟨queue, queuePlace, ages⟩ := age.each slot later place
  exact ⟨queue, List.mem_of_getElem? queuePlace, ages⟩

theorem seats (age : QueuesAge before after) :
    after.map (·.seat) = before.map (·.seat) := by
  apply fields_eq age.length
  intro slot later place
  obtain ⟨queue, queuePlace, ages⟩ := age.each slot later place
  exact ⟨queue, queuePlace, ages.seat⟩

/-- Queues out of synchrony stay so. -/
theorem silent (age : QueuesAge before after)
    (silent : ∀ queue ∈ before, queue.synched = false) :
    ∀ queue ∈ after, queue.synched = false := by
  intro later member
  obtain ⟨queue, queueMember, ages⟩ := age.back member
  have was := silent queue queueMember
  cases flag : later.synched with
  | false => rfl
  | true =>
      rw [ages.synched flag] at was
      cases was

theorem eq_nil_iff (age : QueuesAge before after) : after = [] ↔ before = [] := by
  rw [← List.length_eq_zero_iff, age.length, List.length_eq_zero_iff]

end QueuesAge

/-! ## Work on merges -/

/-- The second game is the first one after merges were worked on: queues were
written and read, merges were parked, woken and ended, and players have gone
out of synchrony.  If it merges no more, no queue is left in synchrony. -/
structure Game.Works (game after : Game) : Prop where
  frame : ∃ queues ended waiting woken synched,
    after = { game with
      queues := queues, ended := ended, waiting := waiting, woken := woken,
      synched := synched }
  queues : QueuesAge game.queues after.queues
  rounds : ∀ round, QueuesAge (game.roundQueues round) (after.roundQueues round)
  synched : after.synched = true → game.synched = true
  mute : game.synched = true → after.synched = false →
    ∀ queue ∈ after.queues, queue.synched = false

namespace Game.Works

variable {game after last : Game}

theorem trans (one : game.Works after) (two : after.Works last) : game.Works last where
  frame := by
    obtain ⟨_, _, _, _, _, rfl⟩ := one.frame
    exact two.frame
  queues := one.queues.trans two.queues
  rounds := fun round => (one.rounds round).trans (two.rounds round)
  synched := fun flag => one.synched (two.synched flag)
  mute := fun on off => by
    cases flag : after.synched with
    | true => exact two.mute flag off
    | false => exact two.queues.silent (one.mute on flag)

theorem of_dims (dims : game.Dims after) : game.Works after where
  frame := by
    obtain ⟨_, _, _, _, rfl⟩ := dims.frame
    exact ⟨_, _, _, _, _, rfl⟩
  queues := .of_fade dims.queues
  rounds := fun round => .of_fade (dims.roundQueues round)
  synched := dims.synched
  mute := dims.mute

/-- Merges move between the lists of the game, its hands and the outside. -/
theorem lists (game : Game) (waiting woken : List ParkedMerge) :
    game.Works { game with waiting := waiting, woken := woken } where
  frame := ⟨_, _, _, _, _, rfl⟩
  queues := .refl _
  rounds := fun _ => .refl _
  synched := fun on => on
  mute := fun on off => by
    have same : game.synched = false := off
    rw [on] at same
    cases same

theorem refl (game : Game) : game.Works game := lists game game.waiting game.woken

/-- A queue is read. -/
theorem setQueueAt {round slot : Nat} {queue later : ActionQueue}
    (place : game.queueAt? round slot = some queue) (ages : queue.Ages later) :
    game.Works (game.setQueueAt round slot later) := by
  have rounds : ∀ other, QueuesAge (game.roundQueues other)
      ((game.setQueueAt round slot later).roundQueues other) := by
    intro other
    rw [roundQueues_setQueueAt]
    split
    · rename_i same
      rw [queueAt?_eq, ← same] at place
      exact same ▸ .set place ages
    · exact .refl _
  obtain ⟨queues, ended, frame, change⟩ := game.setQueueAt_frame round slot later
  rw [frame] at rounds ⊢
  refine ⟨⟨_, _, _, _, _, rfl⟩, ?_, rounds, fun on => on, fun on off => ?_⟩
  · rcases change with same | ⟨rfl, changed⟩
    · exact .of_eq same
    · by_cases on : game.queues = []
      · rw [on, List.set_nil] at changed
        exact .of_eq (changed.trans on.symm)
      · rw [queueAt?_eq, roundQueues_current on] at place
        exact changed ▸ .set place ages
  · have same : game.synched = false := off
    rw [on] at same
    cases same

/-- A message is written to a queue of the current round. -/
theorem write (on : game.queues ≠ []) (slot : Nat) (data : Bytes) :
    game.Works (game.write slot data) where
  frame := ⟨_, _, _, _, _, rfl⟩
  queues := .modify (.add · data) _ slot
  rounds := fun round => by
    rw [roundQueues_write on]
    split
    · rename_i same
      rw [same, roundQueues_current on]
      exact .modify (.add · data) _ slot
    · exact .refl _
  synched := fun on => on
  mute := fun merging off => by
    have same : game.synched = false := off
    rw [merging] at same
    cases same

end Game.Works

namespace Room

/-- Work on merges changes the game only. -/
structure Works (room after : Room) : Prop where
  game : room.game.Works after.game
  people : after.people = room.people

namespace Works

variable {room after last : Room}

theorem refl (room : Room) : room.Works room := ⟨.refl _, rfl⟩

theorem trans (one : room.Works after) (two : after.Works last) : room.Works last :=
  ⟨one.game.trans two.game, two.people.trans one.people⟩

/-- Only the game changes. -/
theorem of_game {game : Game} (works : room.game.Works game) :
    room.Works { room with game := game } := ⟨works, rfl⟩

end Works

theorem works_park (room : Room) (merge : Merge) (deadline : Nat) :
    room.Works (room.park merge deadline) :=
  .of_game (.lists _ _ _)

theorem works_unpark (room : Room) (ticket : Nat) : room.Works (room.unpark ticket) :=
  .of_game (.lists _ _ _)

theorem works_noteTimeout (room : Room) (timeout : ReadTimeout) :
    room.Works (room.noteTimeout timeout).1 := by
  obtain ⟨dims, people⟩ := room.noteTimeout_dims timeout
  exact ⟨.of_dims dims, people⟩

/-- Collecting shares is work on merges. -/
theorem works_collect (room : Room) (now : Nat) (merge : Merge) (remaining : Nat) :
    room.Works (room.collect now merge remaining).1 := by
  induction remaining generalizing room merge with
  | zero =>
      unfold collect
      split
      · exact .refl room
      · exact .refl room
  | succ remaining inductionHypothesis =>
      unfold collect
      split
      · exact .refl room
      · split
        · exact works_park ..
        · rename_i queue place
          split
          · rename_i part later read
            exact (Works.of_game (.setQueueAt place (.read read))).trans
              (inductionHypothesis ..)
          · exact works_park ..
          · exact works_park ..

/-- So is retrying a merge. -/
theorem works_resume (room : Room) (now : Nat) (parked : ParkedMerge) :
    room.Works (room.resume now parked).1 := by
  have lapsed : ∀ timeout merge remaining, room.Works
      ((room.noteTimeout timeout).1.collect now merge remaining).1 :=
    fun timeout merge remaining =>
      (room.works_noteTimeout timeout).trans (works_collect ..)
  unfold resume
  simp only
  split
  · exact .refl room
  · rename_i queue place
    split
    · rename_i part later read
      exact (Works.of_game (.setQueueAt place (.read read))).trans (works_collect ..)
    · exact lapsed ..
    · split
      · exact lapsed ..
      · exact works_park ..

/-- So is taking in a message of input. -/
theorem works_addData (room : Room) (now ticket : Nat) (id : UserId) (data : Bytes) :
    room.Works (room.addData now ticket id data).1 := by
  unfold addData
  simp only
  split
  · exact .refl room
  · split
    · exact .refl room
    · rename_i slot seat
      split
      · exact .refl room
      · split
        · exact .refl room
        · refine Works.trans (Works.of_game ?_) (works_collect ..)
          split
          · have on : room.game.queues ≠ [] := Game.queues_ne_nil_of_slotFor? seat
            exact (Game.Works.write on slot data).trans (.of_dims (Game.dims_wake ..))
          · exact .refl _

end Room

/-! ## What members do -/

/-- The step is refused and leaves things as they were. -/
structure Step.Refused {σ α : Type} (step : Step σ α) (before : σ) : Prop where
  state : step.state = before
  result : ∃ refusal, step.result = .error refusal

/-- The step is carried out, and this is what it makes of things. -/
structure Step.Makes {σ α : Type} (step : Step σ α) (after : σ) : Prop where
  state : step.state = after
  result : ∃ value, step.result = .ok value

/-- The game after the queue in a place went out of synchrony.  With fewer than
two left it merges no more. -/
def Game.hush (game : Game) (slot : Nat) : Game := (game.silence slot).desynchIfAlone.1

namespace Game

theorem dims_hush (game : Game) (slot : Nat) : game.Dims (game.hush slot) :=
  (dims_silence game slot).trans (dims_desynchIfAlone _)

/-- The queue in that place is out of synchrony. -/
theorem silent_hush {game : Game} {slot : Nat} {queue : ActionQueue}
    (place : (game.hush slot).queues[slot]? = some queue) : queue.synched = false := by
  obtain ⟨earlier, before, fades⟩ :=
    (dims_desynchIfAlone (game.silence slot)).queues.2 slot queue place
  have silent := silent_silence game slot before
  cases flag : queue.synched with
  | false => rfl
  | true =>
      rw [fades.synched flag] at silent
      cases silent

/-- A game that goes on merging has two queues in synchrony. -/
theorem two_le_synchedCount_hush {game : Game} {slot : Nat}
    (on : (game.hush slot).synched = true) : 2 ≤ (game.hush slot).synchedCount := by
  unfold hush desynchIfAlone at on ⊢
  split at on
  · rw [(dims_desynchAll _).2] at on
    cases on
  · rename_i enough
    rw [if_neg enough]
    exact Nat.le_of_not_lt fun few => enough ⟨on, few⟩

end Game

/-- What neither play nor work changes of a game. -/
structure Game.Keeps (game after : Game) : Prop where
  id : after.id = game.id
  name : after.name = game.name
  emulator : after.emulator = game.emulator
  owner : after.owner = game.owner
  ownerSerial : after.ownerSerial = game.ownerSerial
  members : after.members = game.members
  kicked : after.kicked = game.kicked
  settings : after.settings = game.settings

namespace Game.Keeps

variable {game after last : Game}

theorem trans (one : game.Keeps after) (two : after.Keeps last) : game.Keeps last :=
  ⟨two.id.trans one.id, two.name.trans one.name, two.emulator.trans one.emulator,
    two.owner.trans one.owner, two.ownerSerial.trans one.ownerSerial,
    two.members.trans one.members, two.kicked.trans one.kicked,
    two.settings.trans one.settings⟩

theorem of_works (works : game.Works after) : game.Keeps after := by
  obtain ⟨_, _, _, _, _, rfl⟩ := works.frame
  exact ⟨rfl, rfl, rfl, rfl, rfl, rfl, rfl, rfl⟩

theorem endRound (game : Game) : game.Keeps game.endRound := by
  obtain ⟨_, _, frame⟩ := game.endRound_frame
  rw [frame]
  exact ⟨rfl, rfl, rfl, rfl, rfl, rfl, rfl, rfl⟩

theorem hush (game : Game) (slot : Nat) : game.Keeps (game.hush slot) :=
  .of_works (.of_dims (game.dims_hush slot))

end Game.Keeps

namespace Room

variable (room : Room) (id : UserId)

/-- The room with a member more. -/
def joined : Room :=
  ⟨{ room.game with members := room.game.members ++ [id] },
    room.people.update id
      (·.enterGame room.game.id (UInt8.ofNat (room.game.members ++ [id]).length))⟩

/-- A user joins a game that waits and has room, unless it is a member or was
sent away. -/
theorem join_cases : (room.join id).Refused room ∧
      (id ∈ room.game.members ∨ id ∈ room.game.kicked ∨ room.game.status ≠ .waiting ∨
        room.game.settings.maxPlayers.toNat ≤ room.game.members.length) ∨
    id ∉ room.game.members ∧ id ∉ room.game.kicked ∧ room.game.status = .waiting ∧
      room.game.members.length < room.game.settings.maxPlayers.toNat ∧
      (room.join id).Makes (room.joined id) := by
  unfold join
  simp only
  split
  · rename_i old
    exact .inl ⟨⟨rfl, _, rfl⟩, .inl old⟩
  · rename_i new
    split
    · rename_i barred
      exact .inl ⟨⟨rfl, _, rfl⟩, .inr (.inl barred)⟩
    · rename_i welcome
      split
      · rename_i busy
        exact .inl ⟨⟨rfl, _, rfl⟩, .inr (.inr (.inl busy))⟩
      · rename_i waiting
        split
        · rename_i full
          exact .inl ⟨⟨rfl, _, rfl⟩, .inr (.inr (.inr full))⟩
        · rename_i space
          exact .inr ⟨new, welcome, Decidable.not_not.mp waiting, Nat.lt_of_not_le space,
            rfl, _, rfl⟩

/-- A user as the player with the given number in a round that starts. -/
def seatPlayer (player : UInt8) (user : User) : User :=
  { user with player := player, status := .playing }

/-- The room with the next round started. -/
def commence (actions : Nat) : Room :=
  ⟨room.game.endRound.commence actions,
    numberPlayers room.people room.game.members seatPlayer⟩

/-- The owner starts a round in a game that waits and has members, all of them
with its connection type. -/
theorem start_outcomes : (room.start id).Refused room ∨
    id = room.game.owner ∧ room.game.status = .waiting ∧ room.game.members ≠ [] ∧
      (∀ member ∈ room.game.members, (room.people.person member).connectionType =
        (room.people.person room.game.owner).connectionType) ∧
      (room.start id).Makes
        (room.commence (room.people.person room.game.owner).connectionType.toNat) := by
  unfold start
  simp only
  split
  · exact .inl ⟨rfl, _, rfl⟩
  · rename_i owner
    split
    · exact .inl ⟨rfl, _, rfl⟩
    · rename_i waiting
      split
      · exact .inl ⟨rfl, _, rfl⟩
      · rename_i someone
        split
        · exact .inl ⟨rfl, _, rfl⟩
        · rename_i alike
          refine .inr ⟨Decidable.not_not.mp owner, Decidable.not_not.mp waiting, someone,
            fun member here => ?_, ?_, _, rfl⟩
          · exact Decidable.not_not.mp fun differs =>
              alike (List.any_eq_true.mpr ⟨member, here, decide_eq_true differs⟩)
          · obtain ⟨users, ended, frame⟩ := room.game.endRound_frame
            rw [commence, Game.commence, Game.startQueues, frame]
            rfl

/-- Where the connection types do not matter. -/
theorem start_cases : (room.start id).Refused room ∨
    id = room.game.owner ∧ room.game.status = .waiting ∧ room.game.members ≠ [] ∧
      (room.start id).Makes
        (room.commence (room.people.person room.game.owner).connectionType.toNat) :=
  (room.start_outcomes id).imp_right fun ⟨owner, waiting, someone, _, makes⟩ =>
    ⟨owner, waiting, someone, makes⟩

/-- The queues once the one in a place has come into synchrony. -/
def marked (slot : Nat) : List ActionQueue :=
  room.game.queues.modify slot (·.setSynched true)

/-- Each of them is as before, or has come into synchrony. -/
theorem marked_place {slot place : Nat} {queue : ActionQueue}
    (found : (room.marked slot)[place]? = some queue) :
    ∃ before, room.game.queues[place]? = some before ∧
      (queue = before ∨ queue = before.setSynched true) := by
  rw [marked, List.getElem?_modify] at found
  obtain ⟨before, here, rfl⟩ := Option.map_eq_some_iff.mp found
  refine ⟨before, here, ?_⟩
  split
  · exact .inr rfl
  · exact .inl rfl

/-- A member signals that it is ready while the players get ready.  Its queue comes
into synchrony.  If all queues are now, play begins; if not, nothing else changes. -/
theorem ready_outcomes : (room.ready id).Refused room ∨
    ∃ slot, id ∈ room.game.members ∧ room.game.status = .synchronizing ∧
      room.game.slotFor? (room.people.person id) = some slot ∧
      ((∀ queue ∈ room.marked slot, queue.synched = true) ∧
          (room.ready id).Makes
            { room with
              game := { room.game with
                queues := room.marked slot
                status := .playing
                synched := true } } ∨
        (∃ queue ∈ room.marked slot, queue.synched = false) ∧
          (room.ready id).Makes
            { room with game := { room.game with queues := room.marked slot } }) := by
  unfold ready
  simp only
  split
  · exact .inl ⟨rfl, _, rfl⟩
  · rename_i member
    split
    · exact .inl ⟨rfl, _, rfl⟩
    · rename_i gathering
      split
      · exact .inl ⟨rfl, _, rfl⟩
      · rename_i slot seat
        refine .inr ⟨slot, Decidable.not_not.mp member, Decidable.not_not.mp gathering, seat, ?_⟩
        split
        · rename_i all
          exact .inl ⟨List.countP_eq_length.mp all, rfl, _, rfl⟩
        · rename_i some
          refine .inr ⟨?_, rfl, _, rfl⟩
          have missing : ¬ ∀ queue ∈ room.marked slot, queue.synched = true :=
            fun all => some (List.countP_eq_length.mpr all)
          simpa using missing

/-- Whatever comes of the signal, only the queue, the status and the merging change. -/
theorem ready_cases : (room.ready id).Refused room ∨
    ∃ slot status synched, id ∈ room.game.members ∧
      room.game.status = .synchronizing ∧
      room.game.slotFor? (room.people.person id) = some slot ∧
      (status = .synchronizing ∧ synched = room.game.synched ∨
        status = .playing ∧ synched = true) ∧
      (room.ready id).Makes
        { room with
          game := { room.game with
            queues := room.game.queues.modify slot (·.setSynched true)
            status := status
            synched := synched } } := by
  rcases room.ready_outcomes id with
    refused | ⟨slot, member, gathering, seat, ⟨-, makes⟩ | ⟨-, makes⟩⟩
  · exact .inl refused
  · exact .inr ⟨slot, .playing, true, member, gathering, seat, .inr ⟨rfl, rfl⟩, makes⟩
  · exact .inr ⟨slot, room.game.status, room.game.synched, member, gathering, seat,
      .inl ⟨gathering, rfl⟩, makes⟩

/-- The people once a user plays no more. -/
def rested : Roster := room.people.update id fun user => { user with status := .idle }

/-- The room after the player in a place went out of the round, which is over
when no member plays. -/
def bench (slot : Nat) : Room :=
  if room.game.members.any fun member => ((room.rested id).person member).status = .playing
  then ⟨room.game.hush slot, room.rested id⟩
  else ⟨{ (room.game.hush slot).endRound with status := .waiting }, room.rested id⟩

/-- A member with a seat in the round is dropped: its queue goes out of
synchrony, and the round is over when no member plays. -/
theorem drop_cases : (room.drop id).Refused room ∧
      (id ∉ room.game.members ∨ room.game.queues = [] ∨
        room.game.slotFor? (room.people.person id) = none) ∨
    ∃ slot, id ∈ room.game.members ∧ room.game.queues ≠ [] ∧
      room.game.slotFor? (room.people.person id) = some slot ∧
      (room.drop id).Makes (room.bench id slot) := by
  unfold drop
  simp only
  split
  · rename_i absent
    exact .inl ⟨⟨rfl, _, rfl⟩, .inl absent⟩
  · rename_i member
    split
    · rename_i none
      exact .inl ⟨⟨rfl, _, rfl⟩, .inr (.inl none)⟩
    · rename_i on
      split
      · rename_i nowhere
        exact .inl ⟨⟨rfl, _, rfl⟩, .inr (.inr nowhere)⟩
      · rename_i slot seat
        refine .inr ⟨slot, Decidable.not_not.mp member, on, seat, ?_, _, rfl⟩
        have settled : (if (room.game.silence slot).synched = true ∧
              (room.game.silence slot).synchedCount < 2 then
            (room.game.silence slot).desynchAll
          else room.game.silence slot) = room.game.hush slot := by
          rw [Game.hush, Game.desynchIfAlone]
          split
          · rfl
          · rfl
        have members : (room.game.hush slot).members = room.game.members := by
          obtain ⟨_, _, _, _, frame⟩ := (room.game.dims_hush slot).frame
          rw [frame]
        simp only [Step.done]
        rw [settled, members, bench]
        split
        · rename_i quiet
          rw [Bool.not_eq_true', Bool.eq_false_iff] at quiet
          exact (if_neg quiet).symm
        · rename_i plays
          rw [Bool.not_eq_true', Bool.not_eq_false] at plays
          exact (if_pos plays).symm

/-- A user under another player number. -/
def renumber (player : UInt8) (user : User) : User := { user with player := player }

/-- The room with a member less.  Where no round is on, those who stay are
numbered anew. -/
def without : Room :=
  ⟨{ room.game with members := room.game.members.filter (· ≠ id) },
    if room.game.status = .waiting then
      numberPlayers (room.people.update id (·.leaveGame))
        (room.game.members.filter (· ≠ id)) renumber
    else room.people.update id (·.leaveGame)⟩

/-- The room before a member leaves: one that still plays is dropped. -/
def shed : Room :=
  if (room.people.person id).status = .playing ∧ room.game.status ≠ .waiting then
    (room.drop id).state
  else room

/-- The room after a member left it. -/
def left : Room := (room.shed id).without id

/-- A member that leaves goes just so, or out of the round first. -/
theorem left_cases : room.left id = room.without id ∨
    ∃ slot, room.game.slotFor? (room.people.person id) = some slot ∧
      room.left id = (room.bench id slot).without id := by
  unfold left shed
  split
  · rcases room.drop_cases id with ⟨refused, -⟩ | ⟨slot, -, -, seat, makes⟩
    · rw [refused.state]
      exact .inl rfl
    · rw [makes.state]
      exact .inr ⟨slot, seat, rfl⟩
  · exact .inl rfl

/-- What is told before a member leaves. -/
def shedLetters : List Letter :=
  if (room.people.person id).status = .playing ∧ room.game.status ≠ .waiting then
    (room.drop id).letters
  else []

/-- The news that a member has left, as it is known once it is in no game. -/
def parting : GameEvent :=
  .userQuit (((room.shed id).people.update id (·.leaveGame)).person id)

/-- To go out of the round is not to go off the list of members. -/
theorem members_shed : (room.shed id).game.members = room.game.members := by
  unfold shed
  split
  · rcases room.drop_cases id with ⟨refused, -⟩ | ⟨slot, -, -, -, makes⟩
    · rw [refused.state]
    · obtain ⟨_, _, _, _, frame⟩ := (room.game.dims_hush slot).frame
      rw [makes.state, bench]
      split
      · simp only
        rw [frame]
      · obtain ⟨_, _, ends⟩ := (room.game.hush slot).endRound_frame
        simp only
        rw [ends, frame]
  · rfl

/-- Members are looked at only after the user was dropped, which changes none. -/
theorem quit_split : room.quit id =
    if id ∉ room.game.members then
      ⟨room.shed id, room.shedLetters id, .error (.notInGame id)⟩
    else
      .done (room.left id)
        (room.shedLetters id ++ ⟨id, .game (room.left id).game.id (room.parting id)⟩ ::
          (room.left id).game.tellAll (room.parting id))
        () := by
  have dropped : (if (room.people.person id).status = .playing ∧ room.game.status ≠ .waiting then
      ((room.drop id).state, (room.drop id).letters) else (room, [])) =
        (room.shed id, room.shedLetters id) := by
    unfold shed shedLetters
    split
    · rfl
    · rfl
  unfold quit
  simp only
  rw [dropped]
  simp only
  rw [members_shed, left, without, members_shed]
  rfl

/-- A stranger to the game is dropped in vain and does not leave it. -/
theorem quit_stranger (absent : id ∉ room.game.members) :
    room.quit id = .refuse room (.notInGame id) := by
  have vain : room.drop id = .refuse room (.notInGame id) := if_pos absent
  rw [quit_split, if_pos absent, shed, shedLetters, vain]
  split
  · rfl
  · rfl

/-- A member leaves, and it is told to itself and to all who stay. -/
theorem quit_eq (member : id ∈ room.game.members) :
    room.quit id =
      .done (room.left id)
        (room.shedLetters id ++ ⟨id, .game (room.left id).game.id (room.parting id)⟩ ::
          (room.left id).game.tellAll (room.parting id))
        () :=
  (room.quit_split id).trans (if_neg (not_not_intro member))

/-- A member leaves. -/
theorem quit_cases : (room.quit id).Refused room ∧ id ∉ room.game.members ∨
    id ∈ room.game.members ∧ (room.quit id).Makes (room.left id) := by
  by_cases member : id ∈ room.game.members
  · rw [room.quit_eq id member]
    exact .inr ⟨member, rfl, _, rfl⟩
  · rw [room.quit_stranger id member]
    exact .inl ⟨⟨rfl, _, rfl⟩, member⟩

/-- The owner bars another member. -/
theorem kick_cases (target : UserId) : (room.kick id target).Refused room ∨
    ∃ kicked, (∀ user, user ∈ kicked ↔ user ∈ room.game.kicked ∨ user = target) ∧
      id = room.game.owner ∧ target ≠ id ∧ target ∈ room.game.members ∧
      (room.kick id target).Makes
        { room with game := { room.game with kicked := kicked } } := by
  unfold kick
  simp only
  split
  · exact .inl ⟨rfl, _, rfl⟩
  · rename_i owner
    split
    · exact .inl ⟨rfl, _, rfl⟩
    · rename_i another
      split
      · exact .inl ⟨rfl, _, rfl⟩
      · rename_i member
        refine .inr ⟨_, fun user => ?_, Decidable.not_not.mp owner, another,
          Decidable.not_not.mp member, rfl, _, rfl⟩
        split
        · rename_i already
          constructor
          · exact .inl
          · rintro (before | rfl)
            · exact before
            · exact already
        · rw [List.mem_append, List.mem_singleton]

/-- The people after users left their games. -/
def dismissed (people : Roster) (members : List UserId) : Roster :=
  members.foldl (fun people member => people.update member (·.leaveGame)) people

/-- The owner sends every member away. -/
theorem close_cases : (room.close id).Refused room ∧ id ≠ room.game.owner ∨
    ∃ silent, id = room.game.owner ∧ room.game.Dims silent ∧
      (room.game.synched = true → ∀ queue ∈ silent.queues, queue.synched = false) ∧
      silent.synched = false ∧
      (room.close id).Makes
        ⟨{ silent with members := [] }.endRound,
          dismissed room.people room.game.members⟩ := by
  unfold close
  simp only
  split
  · rename_i other
    exact .inl ⟨⟨rfl, _, rfl⟩, other⟩
  · rename_i owner
    refine .inr ⟨_, Decidable.not_not.mp owner, ?_, ?_, ?_, rfl, _, rfl⟩
    · split
      · exact (Game.dims_desynchAll _).1
      · exact .refl _
    · intro on
      obtain ⟨dims, off⟩ := room.game.dims_desynchAll
      rw [if_pos on]
      exact dims.mute on off
    · split
      · exact (Game.dims_desynchAll _).2
      · rename_i off
        exact Bool.eq_false_iff.mpr off

/-- A gap in the messages of a user does nothing, or puts a queue out of
synchrony. -/
theorem droppedPacket_cases : (room.droppedPacket id).1 = room ∨
    ∃ slot, (room.droppedPacket id).1 = { room with game := room.game.hush slot } := by
  unfold droppedPacket
  simp only
  split
  · exact .inl rfl
  · split
    · exact .inl rfl
    · split
      · exact .inr ⟨_, rfl⟩
      · exact .inl rfl

/-! ## Play -/

/-- A member that is not playing signals that it is ready.  It was dropped after
the round had started. -/
def Rejoins : Prop :=
  id ∈ room.game.members ∧ room.game.status = .synchronizing ∧
    (room.people.person id).status ≠ .playing

instance : Decidable (room.Rejoins id) := inferInstanceAs (Decidable (_ ∧ _ ∧ _))

/-- What members do while they stay: they start a round, get ready, drop out of
it, and work goes on on their merges.  Dropped members that signal that they are
ready are let in only where the condition holds. -/
inductive Plays (mayRejoin : Prop) (room : Room) : Room → Prop where
  | start {id : UserId} (owner : id = room.game.owner)
      (waiting : room.game.status = .waiting) (someone : room.game.members ≠ []) :
      Plays mayRejoin room
        (room.commence (room.people.person room.game.owner).connectionType.toNat)
  | ready {id : UserId} {slot : Nat} {status : GameStatus} {synched : Bool}
      (member : id ∈ room.game.members) (gathering : room.game.status = .synchronizing)
      (seat : room.game.slotFor? (room.people.person id) = some slot)
      (next : status = .synchronizing ∧ synched = room.game.synched ∨
        status = .playing ∧ synched = true)
      (rejoins : room.Rejoins id → mayRejoin) :
      Plays mayRejoin room
        { room with
          game := { room.game with
            queues := room.game.queues.modify slot (·.setSynched true)
            status := status
            synched := synched } }
  | drop {id : UserId} {slot : Nat} (member : id ∈ room.game.members)
      (on : room.game.queues ≠ [])
      (seat : room.game.slotFor? (room.people.person id) = some slot) :
      Plays mayRejoin room (room.bench id slot)
  | work {after : Room} (works : room.Works after) : Plays mayRejoin room after

section Plays

variable {room} {mayRejoin : Prop}

theorem Plays.rest : room.Plays mayRejoin room := .work (.refl room)

theorem Plays.keeps {after : Room} (plays : room.Plays mayRejoin after) :
    room.game.Keeps after.game := by
  cases plays with
  | start owner waiting someone =>
      have ends := Game.Keeps.endRound room.game
      exact ends.trans ⟨rfl, rfl, rfl, rfl, rfl, rfl, rfl, rfl⟩
  | ready member gathering seat next rejoins => exact ⟨rfl, rfl, rfl, rfl, rfl, rfl, rfl, rfl⟩
  | @drop id slot member on seat =>
      have hushed := Game.Keeps.hush room.game slot
      unfold bench
      split
      · exact hushed
      · have ends := hushed.trans (.endRound _)
        exact ends.trans ⟨rfl, rfl, rfl, rfl, rfl, rfl, rfl, rfl⟩
  | work works => exact .of_works works.game

theorem plays_start (id : UserId) : room.Plays mayRejoin (room.start id).state := by
  rcases room.start_cases id with refused | ⟨owner, waiting, someone, makes⟩
  · rw [refused.state]
    exact .rest
  · exact makes.state ▸ .start owner waiting someone

theorem plays_ready {id : UserId} (rejoins : room.Rejoins id → mayRejoin) :
    room.Plays mayRejoin (room.ready id).state := by
  rcases room.ready_cases id with
    refused | ⟨slot, status, synched, member, gathering, seat, next, makes⟩
  · rw [refused.state]
    exact .rest
  · exact makes.state ▸ .ready member gathering seat next rejoins

theorem plays_drop (id : UserId) : room.Plays mayRejoin (room.drop id).state := by
  rcases room.drop_cases id with ⟨refused, -⟩ | ⟨slot, member, on, seat, makes⟩
  · rw [refused.state]
    exact .rest
  · exact makes.state ▸ .drop member on seat

/-- Before a member leaves it may be dropped. -/
theorem plays_shed (id : UserId) : room.Plays mayRejoin (room.shed id) := by
  unfold shed
  split
  · exact plays_drop id
  · exact .rest

/-- A member that leaves is gone from the members, and all else stays. -/
theorem left_game (room : Room) (id : UserId) : ∃ game, room.game.Keeps game ∧
    (room.left id).game =
      { game with members := room.game.members.filter (· ≠ id) } := by
  have shed : room.Plays True (room.shed id) := plays_shed id
  have keeps := shed.keeps
  refine ⟨_, keeps, ?_⟩
  rw [left, without, keeps.members]

theorem plays_chat (id : UserId) (message : String) :
    room.Plays mayRejoin (room.chat id message).state := by
  unfold chat
  split
  · exact .rest
  · exact .rest

theorem plays_addData (now ticket : Nat) (id : UserId) (data : Bytes) :
    room.Plays mayRejoin (room.addData now ticket id data).1 :=
  .work (room.works_addData now ticket id data)

theorem plays_droppedPacket (id : UserId) :
    room.Plays mayRejoin (room.droppedPacket id).1 := by
  rcases room.droppedPacket_cases id with same | ⟨slot, hushed⟩
  · rw [same]
    exact .rest
  · rw [hushed]
    exact .work (.of_game (.of_dims (room.game.dims_hush slot)))

/-- A merge is taken off the lists and retried. -/
theorem works_retry (now ticket : Nat) (parked : ParkedMerge) :
    room.Works ((room.unpark ticket).resume now parked).1 :=
  (room.works_unpark ticket).trans (works_resume ..)

end Plays

end Room

end Netplay
