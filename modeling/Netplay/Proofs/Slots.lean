/-
Module: Netplay.Proofs.Slots
Purpose: Players keep their slots: as long as a round is on its queues stay those of
  the users it started with, members keep the numbers they were given, and input is
  filed under the number of its sender only.
Main exports:
  ActionQueue.Unfed, QueuesStay, Game.Stays, Room.Turn.stays, Game.HasSlots,
  Venue.InRound, Venue.slots_step, Venue.slots_run, Venue.slot_ownership
-/
import Netplay.Proofs.Labels
import Netplay.Proofs.Lifecycle

namespace Netplay

/-! ## Queues to which nothing is filed -/

/-- Nothing has been filed in the queue in between: it holds what it held, or it has
been emptied. -/
def ActionQueue.Unfed (queue later : ActionQueue) : Prop :=
  later.written = queue.written ∧ later.ring = queue.ring ∨
    later.written = 0 ∧ ∀ cell ∈ later.ring, cell = 0

theorem ActionQueue.Unfed.trans {queue middle later : ActionQueue} (first : queue.Unfed middle)
    (second : middle.Unfed later) : queue.Unfed later := by
  rcases second with ⟨written, ring⟩ | gone
  · rw [Unfed, written, ring]
    exact first
  · exact .inr gone

/-- A queue that comes into synchrony takes in nothing by that. -/
theorem ActionQueue.unfed_setSynched (queue : ActionQueue) :
    queue.Unfed (queue.setSynched true) := by
  unfold ActionQueue.setSynched
  split
  · exact .inl ⟨rfl, rfl⟩
  · exact .inl ⟨rfl, rfl⟩

/-- The queues of a round at a later time: they keep their labels, and input has been
filed in some places only. -/
structure QueuesStay (fed : Nat → Prop) (before after : List ActionQueue) : Prop where
  length : after.length = before.length
  each : ∀ (slot : Nat) (later : ActionQueue), after[slot]? = some later →
    ∃ queue, before[slot]? = some queue ∧ later.label = queue.label ∧
      (fed slot ∨ queue.Unfed later)

namespace QueuesStay

variable {fed : Nat → Prop} {before after last : List ActionQueue}

theorem refl (queues : List ActionQueue) : QueuesStay fed queues queues :=
  ⟨rfl, fun _ later place => ⟨later, place, rfl, .inr (.inl ⟨rfl, rfl⟩)⟩⟩

theorem trans (one : QueuesStay fed before after) (two : QueuesStay fed after last) :
    QueuesStay fed before last := by
  refine ⟨two.length.trans one.length, fun slot later place => ?_⟩
  obtain ⟨middle, middlePlace, label, files⟩ := two.each slot later place
  obtain ⟨queue, queuePlace, firstLabel, firstFiles⟩ := one.each slot middle middlePlace
  refine ⟨queue, queuePlace, label.trans firstLabel, ?_⟩
  rcases firstFiles with isFed | unfed
  · exact .inl isFed
  · exact files.imp_right unfed.trans

theorem mono {may : Nat → Prop} (weaker : ∀ slot, fed slot → may slot)
    (stay : QueuesStay fed before after) : QueuesStay may before after := by
  refine ⟨stay.length, fun slot later place => ?_⟩
  obtain ⟨queue, queuePlace, label, files⟩ := stay.each slot later place
  exact ⟨queue, queuePlace, label, files.imp_left (weaker slot)⟩

/-- Queues that fade take in nothing. -/
theorem of_fade (fade : RoundView.QueuesFade before after) : QueuesStay fed before after := by
  refine ⟨fade.1, fun slot later place => ?_⟩
  obtain ⟨queue, queuePlace, fades⟩ := fade.2 slot later place
  refine ⟨queue, queuePlace, ActionQueue.Ages.label (.of_fades fades), .inr ?_⟩
  rcases fades.content with ⟨written, ring, -⟩ | ⟨-, empty⟩
  · exact .inl ⟨written, ring⟩
  · refine .inr ⟨empty.written, fun cell member => ?_⟩
    rw [empty.ring] at member
    exact List.eq_of_mem_replicate member

/-- Changing a queue in a place. -/
theorem modify {slot : Nat} {change : ActionQueue → ActionQueue}
    (labels : ∀ queue : ActionQueue, (change queue).label = queue.label)
    (files : ∀ queue : ActionQueue, fed slot ∨ queue.Unfed (change queue))
    (queues : List ActionQueue) : QueuesStay fed queues (queues.modify slot change) := by
  refine ⟨List.length_modify .., fun other later place => ?_⟩
  rw [List.getElem?_modify] at place
  obtain ⟨queue, queuePlace, rfl⟩ := Option.map_eq_some_iff.mp place
  refine ⟨queue, queuePlace, ?_⟩
  split
  · rename_i same
    exact same ▸ ⟨labels queue, files queue⟩
  · exact ⟨rfl, .inr (.inl ⟨rfl, rfl⟩)⟩

/-- The users stay in their places. -/
theorem users (stay : QueuesStay fed before after) :
    after.map (·.user) = before.map (·.user) := by
  apply fields_eq stay.length
  intro slot later place
  obtain ⟨queue, queuePlace, label, -⟩ := stay.each slot later place
  exact ⟨queue, queuePlace, congrArg Label.user label⟩

end QueuesStay

/-! ## What operations leave of the slots -/

/-- The game at a later time: as long as its round is on, its queues stay and nobody
joins. -/
structure Game.Stays (fed : Nat → Prop) (game later : Game) : Prop where
  number : later.id = game.id
  round : game.round ≤ later.round
  queues : later.round = game.round → later.queues ≠ [] →
    QueuesStay fed game.queues later.queues
  members : later.round = game.round → later.queues ≠ [] →
    ∀ member ∈ later.members, member ∈ game.members

namespace Game.Stays

variable {fed : Nat → Prop} {game middle later : Game}

theorem refl (game : Game) : game.Stays fed game :=
  ⟨rfl, Nat.le_refl _, fun _ _ => .refl _, fun _ _ _ here => here⟩

theorem trans (one : game.Stays fed middle) (two : middle.Stays fed later) :
    game.Stays fed later := by
  have between (same : later.round = game.round) (on : later.queues ≠ []) :
      later.round = middle.round ∧ middle.round = game.round ∧ middle.queues ≠ [] := by
    have first : middle.round = game.round :=
      Nat.le_antisymm (Nat.le_trans two.round (Nat.le_of_eq same)) one.round
    have second := same.trans first.symm
    refine ⟨second, first, fun none => on (List.eq_nil_of_length_eq_zero ?_)⟩
    exact (two.queues second on).length.trans (congrArg List.length none)
  refine ⟨two.number.trans one.number, Nat.le_trans one.round two.round, fun same on => ?_,
    fun same on member here => ?_⟩
  · obtain ⟨second, first, still⟩ := between same on
    exact (one.queues first still).trans (two.queues second on)
  · obtain ⟨second, first, still⟩ := between same on
    exact one.members first still member (two.members second on member here)

theorem mono {may : Nat → Prop} (weaker : ∀ slot, fed slot → may slot)
    (stays : game.Stays fed later) : game.Stays may later :=
  ⟨stays.number, stays.round, fun same on => (stays.queues same on).mono weaker, stays.members⟩

/-- A round that is over is none that goes on. -/
theorem of_ended (number : later.id = game.id) (round : later.round = game.round)
    (none : later.queues = []) : game.Stays fed later :=
  ⟨number, Nat.le_of_eq round.symm, fun _ on => absurd none on, fun _ on => absurd none on⟩

/-- Nothing changes but the queues and who is a member. -/
theorem of_queues (number : later.id = game.id) (round : later.round = game.round)
    (queues : QueuesStay fed game.queues later.queues)
    (members : ∀ member ∈ later.members, member ∈ game.members) : game.Stays fed later :=
  ⟨number, Nat.le_of_eq round.symm, fun _ _ => queues, fun _ _ => members⟩

end Game.Stays

namespace Room

variable {room after : Room}

/-- The place is that of the number of somebody who has sent input. -/
def Feeds (sent : UserId → Bytes → Prop) (people : Roster) (slot : Nat) : Prop :=
  ∃ user data, sent user data ∧ (people.person user).player.toNat = slot + 1

/-- Input is filed in the place of its sender's number only. -/
theorem Chore.stays {sent : UserId → Bytes → Prop} {people : Roster} {game later : Game}
    {hand last : Option Merge} {letters : List Letter}
    (chore : Chore sent people game hand letters later last) :
    QueuesStay (Feeds sent people) game.queues later.queues := by
  cases chore with
  | @hear user data slot ticket isSent on seat =>
      have feeds : Feeds sent people slot := by
        refine ⟨user, data, isSent, ?_⟩
        unfold Game.slotFor? at seat
        split at seat
        · cases seat
        · rename_i inside
          rw [not_or] at inside
          have positive : (people.person user).player.toNat ≠ 0 :=
            fun zero => inside.1 (UInt8.toNat_inj.mp zero)
          have place := Option.some.inj seat
          omega
      unfold Game.hear
      split
      · exact .modify (fun queue => (ActionQueue.Ages.add queue data).label)
          (fun _ => .inl feeds) game.queues
      · exact .refl _
  | take flight => exact .refl _
  | @read merge queue reads part waited place answered =>
      obtain ⟨queues, ended, frame, change⟩ := game.setQueueAt_frame merge.round merge.slot reads
      rw [frame]
      rcases change with same | ⟨current, changed⟩
      · simp only [same]
        exact .refl _
      · by_cases on : game.queues = []
        · rw [on, List.set_nil] at changed
          simp only [changed, on]
          exact .refl _
        · rw [current, Game.queueAt?_eq, Game.roundQueues_current on] at place
          have label := (ActionQueue.Ages.read answered).label
          obtain ⟨heads, rfl, -⟩ := ActionQueue.read_keeps answered
          simp only [changed]
          refine ⟨List.length_set .., fun slot later found => ?_⟩
          rw [List.getElem?_set] at found
          split at found
          · rename_i same
            subst same
            split at found
            · cases found
              exact ⟨queue, place, label, .inr (.inl ⟨rfl, rfl⟩)⟩
            · cases found
          · exact ⟨later, found, rfl, .inr (.inl ⟨rfl, rfl⟩)⟩
  | @lapse merge queue place =>
      exact .of_fade (noteTimeout_dims ⟨game, people⟩
        ⟨queue.player, queue.user, merge.timeouts + 1⟩).1.queues
  | park deadline => exact .refl _
  | finish on => exact .refl _
  | fail => exact .refl _

theorem Chores.stays {sent : UserId → Bytes → Prop} {people : Roster} {game later : Game}
    {hand last : Option Merge} {letters : List Letter}
    (chores : Chores sent people game hand letters later last) :
    QueuesStay (Feeds sent people) game.queues later.queues := by
  induction chores with
  | done game hand => exact .refl _
  | more first _ inductionHypothesis => exact first.stays.trans inductionHypothesis

/-- As long as a round is on, no operation moves its queues or brings in a member, and
input is filed under the number of its sender only. -/
theorem Turn.stays {deed : Deed} (turn : room.Turn deed after) (slotted : room.game.Slotted) :
    room.game.Stays (Feeds deed.Sends room.people) after.game := by
  have hush (slot : Nat) :
      room.game.Stays (Feeds deed.Sends room.people) (room.game.hush slot) := by
    have queues := (room.game.dims_hush slot).queues
    obtain ⟨_, _, _, _, frame⟩ := (room.game.dims_hush slot).frame
    rw [frame] at queues ⊢
    exact .of_queues rfl rfl (.of_fade queues) fun _ here => here
  have ends (game : Game) (number : game.id = room.game.id) (round : game.round = room.game.round)
      (status : GameStatus) :
      room.game.Stays (Feeds deed.Sends room.people) { game.endRound with status := status } := by
    obtain ⟨_, _, frame⟩ := game.endRound_frame
    rw [frame]
    exact .of_ended number round rfl
  have bench (id : UserId) (slot : Nat) :
      room.game.Stays (Feeds deed.Sends room.people) (room.bench id slot).game := by
    have hushed := hush slot
    have round := (room.game.dims_hush slot).round
    unfold Room.bench
    split
    · exact hushed
    · exact ends _ hushed.number round .waiting
  have without {before : Room} (id : UserId)
      (stays : room.game.Stays (Feeds deed.Sends room.people) before.game) :
      room.game.Stays (Feeds deed.Sends room.people) (before.without id).game :=
    stays.trans (.of_queues rfl rfl (.refl _) fun _ here => (List.mem_filter.mp here).1)
  cases turn with
  | rest => exact .refl _
  | join new waiting space => exact .of_ended rfl rfl (slotted.idle waiting)
  | start waiting someone actions =>
      have next : (room.commence actions).game.round = room.game.round + 1 :=
        congrArg (· + 1) room.game.round_endRound
      refine ⟨?_, Nat.le_trans (Nat.le_succ _) (Nat.le_of_eq next.symm), fun same => ?_,
        fun same => ?_⟩
      · exact (Game.Keeps.endRound room.game).id
      · exact absurd (next.symm.trans same) (Nat.succ_ne_self _)
      · exact absurd (next.symm.trans same) (Nat.succ_ne_self _)
  | @mark id slot gathering =>
      exact .of_queues rfl rfl (.modify (·.label_setSynched true)
        (fun queue => .inr queue.unfed_setSynched) _) fun _ here => here
  | @play id slot gathering all =>
      exact .of_queues rfl rfl (.modify (·.label_setSynched true)
        (fun queue => .inr queue.unfed_setSynched) _) fun _ here => here
  | drop member seat => exact bench _ _
  | @quit id member =>
      rcases room.left_cases id with stays | ⟨slot, -, leaves⟩
      · rw [stays]
        exact without id (.refl _)
      · rw [leaves]
        exact without id (bench id slot)
  | bar kicked => exact .of_queues rfl rfl (.refl _) fun _ here => here
  | @close id silent dims off =>
      exact ends { silent with members := [] } dims.id dims.round _
  | gap slot => exact hush slot
  | work isWork chores =>
      have queues := chores.stays
      obtain ⟨_, _, _, _, _, frame⟩ := chores.works.frame
      rw [frame] at queues ⊢
      exact .of_queues rfl rfl queues fun _ here => here

/-- To join starts no round. -/
theorem Turn.round_join {id : UserId} (turn : room.Turn (.join id) after) :
    after.game.round = room.game.round := by
  cases turn with
  | rest => rfl
  | join new waiting space => rfl
  | work isWork chores => cases isWork

end Room

/-! ## Slots of members -/

/-- The players of a round have their slots: there is one queue for each of the users
it started with, in the same order, under the numbers from one on and with as many
heads, and members have the numbers of their queues. -/
structure Game.HasSlots (game : Game) (people : Roster) : Prop where
  users : game.queueUsers = game.queues.map (·.user)
  distinct : game.queueUsers.Nodup
  queue : ∀ (slot : Nat) (queue : ActionQueue), game.queues[slot]? = some queue →
    queue.player.toNat = slot + 1 ∧ queue.heads.length = game.queues.length
  member : ∀ member ∈ game.members, ∃ slot < game.queues.length,
    game.queueUsers[slot]? = some member ∧ (people.person member).player.toNat = slot + 1 ∧
      game.slotFor? (people.person member) = some slot

namespace Game.HasSlots

variable {game later : Game} {people after : Roster}

/-- Queues in order have their users, where members sit at theirs. -/
theorem of_seated (slotted : game.Slotted) (seated : game.Seated people)
    (on : game.queues ≠ []) : game.HasSlots people where
  users := slotted.users
  distinct := by
    have own := seated.own
    rw [Game.seats, List.map_map] at own
    exact slotted.users ▸ own
  queue := fun slot queue place => by
    have labels : game.labels game.round = game.queues.map (·.label) := by
      rw [Game.labels, roundQueues_current on]
    obtain ⟨number, readers⟩ := slotted.inOrder game.round slot queue.label
      (labels ▸ (List.getElem?_map ..).trans (congrArg (Option.map (·.label)) place))
    rw [labels, List.length_map] at readers
    exact ⟨number, readers⟩
  member := fun member here => by
    obtain ⟨slot, queue, seat, place, user, number⟩ := seated.slotFor? here on
    refine ⟨slot, (List.getElem?_eq_some_iff.mp place).1, ?_, number, seat⟩
    rw [slotted.users, List.getElem?_map, place]
    exact congrArg some user

/-- The queue of a number that a member has is the member's. -/
theorem owner (slots : game.HasSlots people) {member : UserId} (here : member ∈ game.members)
    {slot : Nat} {queue : ActionQueue} (place : game.queues[slot]? = some queue)
    (number : (people.person member).player.toNat = slot + 1) : queue.user = member := by
  obtain ⟨own, -, user, ownNumber, -⟩ := slots.member member here
  obtain rfl : own = slot := Nat.succ.inj (ownNumber.symm.trans number)
  rw [slots.users, List.getElem?_map, place] at user
  exact Option.some.inj user

/-- As long as the users have their queues in the same places, members have the same
numbers. -/
theorem number (slots : game.HasSlots people) (still : later.HasSlots after)
    (users : later.queueUsers = game.queueUsers) {member : UserId}
    (here : member ∈ game.members) (there : member ∈ later.members) :
    (after.person member).player = (people.person member).player := by
  obtain ⟨slot, -, place, number, -⟩ := slots.member member here
  obtain ⟨later, -, laterPlace, laterNumber, -⟩ := still.member member there
  rw [users] at laterPlace
  have inside := (List.getElem?_eq_some_iff.mp place).1
  have same : slot = later :=
    (List.getElem?_inj inside slots.distinct).mp (place.trans laterPlace.symm)
  exact UInt8.toNat_inj.mp (laterNumber.trans (same ▸ number.symm))

end Game.HasSlots

namespace Venue

variable {venue : Venue} {settings : Settings}

/-- The move hands in input of a registered user whose entry names the game with a given
number, and the place is that of the user's number. -/
def Feeds (venue : Venue) (move : Move) (number : GameId) (slot : Nat) : Prop :=
  ∃ user ∈ venue.lobby.people.present, ∃ data, move = .input user.id data ∧
    user.game = some number ∧
    (venue.lobby.people.person user.id).player.toNat = slot + 1

/-- A game with a given number is in a given round. -/
def InRound (venue : Venue) (number : GameId) (round : Nat) : Prop :=
  ∃ game ∈ venue.lobby.games, game.id = number ∧ game.round = round ∧ game.queues ≠ []

instance (venue : Venue) (number : GameId) (round : Nat) : Decidable (venue.InRound number round) :=
  inferInstanceAs (Decidable (∃ game ∈ venue.lobby.games, _ ∧ _ ∧ _))

/-- As long as a round is on, no move takes its queues away. -/
theorem slots_step (kept : venue.lobby.Kept settings venue.created)
    (reached : ∀ game ∈ venue.lobby.allGames, game.Reached) {move : Move} {game later : Game}
    (member : game ∈ venue.lobby.allGames) (after : later ∈ (venue.step move).lobby.allGames)
    (number : later.id = game.id) (on : later.queues ≠ []) :
    game.Stays (venue.Feeds move game.id) later := by
  by_cases hands : ∃ user data, move = .input user data
  · -- The sender's number is known from its entry, which only this move is about.
    obtain ⟨user, data, rfl⟩ := hands
    rw [step_lobby] at after
    rcases venue.input_cases user data with
      ⟨-, same⟩ | ⟨sender, registered, rfl, source, old, names, entry, -, made⟩
    · rw [same] at after
      exact game_unique kept member after number ▸ .refl _
    · rw [made] at after
      rcases Lobby.mem_allGames_withRoom after with rfl | still
      · have fits : Room.Deed.Fits (venue.lobby.room source)
            (.input venue.now venue.nextTicket sender.id data) := entry
        have turn := Room.turn_perform fits
        obtain rfl := game_unique kept old member (number.symm.trans turn.number)
        refine (turn.stays (reached game member).slotted).mono fun slot feeds => ?_
        obtain ⟨_, _, ⟨rfl, rfl⟩, place⟩ := feeds
        exact ⟨sender, registered, _, rfl, names, place⟩
      · exact game_unique kept member still number ▸ .refl _
  · obtain ⟨source, origin, led⟩ := venue.follows_step
      (fun game later => game.Reached → later.Reached ∧
        game.Stays (fun _ => False) later ∧ (move.Creates → later.round = game.round))
      (fun game reached => ⟨reached, .refl game, fun _ => rfl⟩)
      (fun one two reached => by
        obtain ⟨middle, first, start⟩ := one reached
        obtain ⟨last, second, still⟩ := two middle
        exact ⟨last, first.trans second, fun creates => (still creates).trans (start creates)⟩)
      (fun room deed asked fits reached => by
        have turn := Room.turn_perform fits
        refine ⟨.perform reached fits, (turn.stays reached.slotted).mono fun slot feeds => ?_, ?_⟩
        · obtain ⟨user, data, sends, -⟩ := feeds
          exact absurd ⟨user, data, sends_of_asks asked sends⟩ hands
        · intro creates
          cases move with
          | create user name =>
              subst asked
              exact turn.round_join
          | _ => cases creates)
      later after
    rcases origin with old | ⟨creates, blank⟩
    · obtain ⟨-, stays, -⟩ := led (reached source old)
      obtain rfl := game_unique kept member old (stays.number.symm.trans number)
      exact stays.mono fun _ => False.elim
    · obtain ⟨number, name, owner, rules, rfl⟩ := blank
      obtain ⟨-, stays, same⟩ := led (.create number name owner rules)
      have queues := stays.queues (same creates) on
      exact absurd (List.eq_nil_of_length_eq_zero queues.length) on

/-- So the queues of a round stay where they are all through it. -/
theorem slots_run (kept : venue.lobby.Kept settings venue.created)
    (reached : ∀ game ∈ venue.lobby.allGames, game.Reached) {moves : List Move}
    {game later : Game} (live : game ∈ venue.lobby.games)
    (after : later ∈ (venue.run moves).lobby.games) (number : later.id = game.id)
    (on : venue.Throughout (·.InRound game.id game.round) moves) :
    game.Stays (fun _ => True) later ∧ later.round = game.round ∧ later.queues ≠ [] := by
  induction moves generalizing venue game with
  | nil =>
      obtain ⟨other, otherLive, name, -, queues⟩ := on
      obtain rfl := game_unique kept (List.mem_append_left _ live)
        (List.mem_append_left _ otherLive) name
      obtain rfl := game_unique kept (List.mem_append_left _ live)
        (List.mem_append_left _ after) number
      exact ⟨.refl _, rfl, queues⟩
  | cons move rest inductionHypothesis =>
      obtain ⟨middle, middleLive, name, round, queues⟩ := on.2.first
      have step := slots_step kept reached (List.mem_append_left _ live)
        (List.mem_append_left _ middleLive) name queues
      have goesOn := on.2
      rw [← name, ← round] at goesOn
      obtain ⟨stays, same, still⟩ := inductionHypothesis (kept_step kept move)
        (reached_step reached move) middleLive after (number.trans name.symm) goesOn
      exact ⟨(step.mono fun _ _ => trivial).trans stays, same.trans round, still⟩

/-- Whatever has happened at a venue: the players of every round that is on have their
slots.  Whatever work is done on the merges of a game, live or closed, the merge in
hand finds the queue that it reads next, with a head for its reader.  A move files
input in a queue only if the queue's user hands it in, under the number of the queue,
on condition that fewer than 2³² - 1 games have been created, so that no game has taken
the number of another one.  And all through a round its queues are those of the same
users, and everybody in the game has been there from the start of it and keeps the same
number. -/
theorem slot_ownership (settings : Settings) (moves : List Move) :
    (∀ game ∈ ((opened settings).run moves).lobby.games, game.queues ≠ [] →
        game.HasSlots ((opened settings).run moves).lobby.people) ∧
      (∀ game ∈ ((opened settings).run moves).lobby.allGames,
        ∀ (sent : UserId → Bytes → Prop) (people : Roster) (letters : List Letter) (later : Game)
          (merge : Merge), Room.Chores sent people game none letters later (some merge) →
          later.queueUsers.length = later.queues.length ∧
            ∃ queue, later.queueAt? merge.round merge.slot = some queue ∧
              queue.player.toNat = merge.slot + 1 ∧ queue.Serves merge.reader) ∧
      (((opened settings).run moves).created < 2 ^ 32 - 1 → ∀ (move : Move),
        ∀ game ∈ ((opened settings).run moves).lobby.games,
        ∀ later ∈ (((opened settings).run moves).step move).lobby.games,
          later.id = game.id → later.round = game.round → later.queues ≠ [] →
          ∀ (slot : Nat) (queue after : ActionQueue), game.queues[slot]? = some queue →
            later.queues[slot]? = some after → queue.Unfed after ∨
              ∃ data, move = .input queue.user data ∧
                (((opened settings).run moves).lobby.people.person queue.user).player.toNat =
                  slot + 1) ∧
      ∀ (more : List Move), ∀ game ∈ ((opened settings).run moves).lobby.games,
        ∀ later ∈ (((opened settings).run moves).run more).lobby.games, later.id = game.id →
          ((opened settings).run moves).Throughout (·.InRound game.id game.round) more →
          later.queueUsers = game.queueUsers ∧ ∀ member ∈ later.members, member ∈ game.members ∧
            ((((opened settings).run moves).run more).lobby.people.person member).player =
              (((opened settings).run moves).lobby.people.person member).player := by
  have reached := fun moves => reached_run settings moves
  have slots (moves : List Move) : ∀ game ∈ ((opened settings).run moves).lobby.games,
      game.queues ≠ [] → game.HasSlots ((opened settings).run moves).lobby.people :=
    fun game live => .of_seated (reached moves game (List.mem_append_left _ live)).slotted
      ((observes_run Game.custom_lively settings moves).each game live).seated
  have kept := kept_opened settings moves
  refine ⟨slots moves, fun game member sent people letters later merge chores => ?_,
    fun few move game live later after number round on slot queue final place laterPlace => ?_,
    fun more game live later after number on => ?_⟩
  · obtain ⟨slotted, hosts⟩ := chores.slotted (reached moves game member).slotted
    refine ⟨?_, slotted.finds (hosts merge rfl)⟩
    rw [slotted.users, List.length_map]
  · have stays := (slots_step kept (reached moves) (List.mem_append_left _ live)
      (List.mem_append_left _ after) number on)
    obtain ⟨earlier, earlierPlace, -, files⟩ := (stays.queues round on).each slot final laterPlace
    obtain rfl := Option.some.inj (earlierPlace.symm.trans place)
    rcases files with ⟨user, registered, data, rfl, names, seat⟩ | unfed
    · obtain ⟨other, otherLive, same, here⟩ := game_of_entry kept few registered names
      obtain rfl := game_unique kept (List.mem_append_left _ otherLive)
        (List.mem_append_left _ live) same.symm
      have own := (slots moves game live (List.ne_nil_of_mem (List.mem_of_getElem? place))).owner
        here place seat
      exact .inr ⟨data, own.symm ▸ ⟨rfl, seat⟩⟩
    · exact .inl unfed
  · obtain ⟨stays, round, still⟩ := slots_run kept (reached moves) live after number on
    have queues := stays.queues round still
    have started : game.queues ≠ [] := fun none =>
      still (List.eq_nil_of_length_eq_zero (queues.length.trans (congrArg List.length none)))
    have before := slots moves game live started
    have since := slots (moves ++ more) later (run_append _ moves more ▸ after) still
    rw [run_append] at since
    have users : later.queueUsers = game.queueUsers := by
      rw [since.users, before.users, queues.users]
    refine ⟨users, fun member there => ?_⟩
    have here := stays.members round still member there
    exact ⟨here, before.number since users here there⟩

/-- Ada and Cy hand in input, and Bo leaves in between. -/
def halfway : List Move := [.input 1 [1], .leave 2, .input 3 [3]]

theorem slot_ownership_halfway :
    ((opened {}).run trio).Throughout (·.InRound 1 1) halfway ∧
      (((opened {}).run trio).run halfway).lobby.games.map (·.members) = [[1, 3]] ∧
      ∀ game ∈ ((opened {}).run trio).lobby.games,
        ∀ later ∈ (((opened {}).run trio).run halfway).lobby.games,
          later.queueUsers = game.queueUsers ∧ ∀ member ∈ later.members,
            ((((opened {}).run trio).run halfway).lobby.people.person member).player =
              (((opened {}).run trio).lobby.people.person member).player := by
  have on : ((opened {}).run trio).Throughout (·.InRound 1 1) halfway := by decide +kernel
  refine ⟨on, by decide +kernel, fun game live later after => ?_⟩
  have started : ∀ game ∈ ((opened {}).run trio).lobby.games, game.id = 1 ∧ game.round = 1 := by
    decide +kernel
  have still : ∀ game ∈ (((opened {}).run trio).run halfway).lobby.games, game.id = 1 := by
    decide +kernel
  obtain ⟨number, round⟩ := started game live
  rw [← number, ← round] at on
  obtain ⟨users, members⟩ := (slot_ownership {} trio).2.2.2 halfway game live later after
    ((still later after).trans number.symm) on
  exact ⟨users, fun member there => (members member there).2⟩

end Venue

end Netplay
