/-
Module: Netplay.Proofs.Concert
Purpose: Input is merged only while two players or more are in synchrony, and a
  player that has gone out of it stays out as long as play goes on.
Main exports:
  Game.Concerted, Room.Turn.concerted, Game.Fades, Game.PlaysThrough,
  Game.Reached.in_concert, Venue.Plays, Venue.playsThrough_run
-/
import Netplay.Proofs.Deeds

namespace Netplay

/-! ## The queues of one game -/

namespace Game

/-- Nothing is merged while players get ready.  Where input is merged and there are
two queues, at least two are in synchrony.  Once play goes on without merging, no
queue is. -/
structure Concerted (game : Game) : Prop where
  gathers : game.status = .synchronizing → game.synched = false
  enough : game.synched = true → 2 ≤ game.queues.length → 2 ≤ game.synchedCount
  mute : game.status = .playing → game.synched = false →
    ∀ queue ∈ game.queues, queue.synched = false

/-- Which queues are in synchrony. -/
def flags (game : Game) : List Bool := game.queues.map (·.synched)

theorem synchedCount_eq (game : Game) : game.synchedCount = game.flags.countP fun flag => flag := by
  rw [flags, List.countP_map]
  rfl

section Concerted

variable {game after : Game}

/-- It rests on the flags of the queues, the status and the merging. -/
theorem Concerted.of_flags (concerted : game.Concerted) (flags : after.flags = game.flags)
    (synched : after.synched = game.synched) (status : after.status = game.status) :
    after.Concerted where
  gathers := fun gathering => synched.trans (concerted.gathers (status.symm.trans gathering))
  enough := fun on many => by
    have length : after.queues.length = game.queues.length := by
      have same := congrArg List.length flags
      rwa [Game.flags, Game.flags, List.length_map, List.length_map] at same
    rw [synchedCount_eq, flags, ← synchedCount_eq]
    exact concerted.enough (synched.symm.trans on) (length ▸ many)
  mute := fun playing off queue member => by
    have flag : queue.synched ∈ game.flags := flags ▸ List.mem_map.mpr ⟨queue, member, rfl⟩
    obtain ⟨other, otherMember, same⟩ := List.mem_map.mp flag
    exact same.symm.trans (concerted.mute (status.symm.trans playing) (synched.symm.trans off)
      other otherMember)

/-- A game without a round. -/
theorem Concerted.of_idle (queues : game.queues = [])
    (gathers : game.status = .synchronizing → game.synched = false) : game.Concerted where
  gathers := gathers
  enough := fun _ many => by
    rw [queues] at many
    cases many
  mute := fun _ _ queue member => by
    rw [queues] at member
    cases member

/-- A game in which queues went out of synchrony is in concert if it has stopped to
merge or kept two in synchrony. -/
theorem Concerted.dims (concerted : game.Concerted) (dims : game.Dims after)
    (enough : after.synched = true → 2 ≤ after.synchedCount) : after.Concerted where
  gathers := fun gathering => by
    obtain ⟨_, _, _, _, frame⟩ := dims.frame
    have before : game.status = .synchronizing := by
      rw [← gathering, frame]
    cases on : after.synched with
    | false => rfl
    | true => rw [← dims.synched on, concerted.gathers before]
  enough := fun on _ => enough on
  mute := fun playing off => by
    obtain ⟨_, _, _, _, frame⟩ := dims.frame
    have before : game.status = .playing := by
      rw [← playing, frame]
    cases on : game.synched with
    | true => exact dims.mute on off
    | false => exact dims.queues.silent (concerted.mute before on)

/-- When a queue goes out of synchrony, the two others that merging takes are
counted again. -/
theorem Concerted.hush (concerted : game.Concerted) (slot : Nat) : (game.hush slot).Concerted :=
  concerted.dims (game.dims_hush slot) two_le_synchedCount_hush

/-- A queue is replaced by one that is in synchrony exactly if it was. -/
theorem flags_set {slot : Nat} {queue later : ActionQueue}
    (place : game.queues[slot]? = some queue) (same : later.synched = queue.synched) :
    (game.queues.set slot later).map (·.synched) = game.flags := by
  obtain ⟨inside, here⟩ := List.getElem?_eq_some_iff.mp place
  rw [flags, List.map_set, same, ← here]
  have self := @List.set_getElem_self _ (game.queues.map (·.synched)) slot
    (by rwa [List.length_map])
  rwa [List.getElem_map] at self

/-- Reading a queue leaves it in synchrony or out of it. -/
theorem flags_setQueueAt {round slot : Nat} {queue later : ActionQueue}
    (place : game.queueAt? round slot = some queue) (same : later.synched = queue.synched) :
    (game.setQueueAt round slot later).flags = game.flags := by
  unfold setQueueAt
  unfold queueAt? at place
  split
  · rename_i current
    rw [if_pos current] at place
    exact flags_set place same
  · rfl

theorem flags_write (game : Game) (slot : Nat) (data : Bytes) :
    (game.write slot data).flags = game.flags := by
  apply List.ext_getElem?
  intro place
  rw [flags, flags, write, List.getElem?_map, List.getElem?_map, List.getElem?_modify]
  cases game.queues[place]? with
  | none => rfl
  | some queue =>
      change some _ = some _
      split
      · exact congrArg some (ActionQueue.add_synched queue data)
      · rfl

end Concerted

end Game

/-- Reading a queue keeps it in synchrony or out of it. -/
theorem ActionQueue.synched_read {queue later : ActionQueue} {reader : UInt8} {count : Nat}
    {waited : Bool} {bytes : Bytes}
    (answered : queue.read reader count waited = .actions bytes later) :
    later.synched = queue.synched := by
  obtain ⟨heads, rfl, -⟩ := read_keeps answered
  rfl

namespace Room

open Game (Concerted)

variable {room after : Room}

/-- Noting a time-out keeps a game in concert. -/
theorem concerted_noteTimeout (room : Room) (concerted : room.game.Concerted)
    (timeout : ReadTimeout) : (room.noteTimeout timeout).1.game.Concerted := by
  have noted {slot : Nat} {queue : ActionQueue} (place : room.game.queues[slot]? = some queue) :
      Concerted { room.game with
        queues := room.game.queues.set slot (queue.noteTimeout timeout) } :=
    concerted.of_flags (Game.flags_set place rfl) rfl rfl
  unfold noteTimeout
  simp only
  split
  · exact concerted
  · split
    · exact concerted
    · rename_i queue place
      split
      · exact concerted
      · split
        · exact noted place
        · exact (noted place).hush _

/-- Every chore keeps a game in concert. -/
theorem Chore.concerted {sent : UserId → Bytes → Prop} {people : Roster} {game later : Game}
    {hand last : Option Merge} {letters : List Letter}
    (chore : Chore sent people game hand letters later last)
    (concerted : game.Concerted) : later.Concerted := by
  cases chore with
  | @hear user data slot ticket said on seat =>
      unfold Game.hear
      split
      · exact concerted.of_flags (game.flags_write _ data) rfl rfl
      · exact concerted
  | take flight => exact concerted.of_flags rfl rfl rfl
  | @read merge queue later part waited place answered =>
      obtain ⟨queues, ended, frame, -⟩ :=
        game.setQueueAt_frame merge.round merge.slot later
      refine concerted.of_flags
        (Game.flags_setQueueAt place (ActionQueue.synched_read answered)) ?_ ?_
      · rw [frame]
      · rw [frame]
  | lapse place => exact concerted_noteTimeout ⟨game, people⟩ concerted _
  | park deadline => exact concerted.of_flags rfl rfl rfl
  | finish on => exact concerted
  | fail => exact concerted

/-- So does whatever becomes of a room by an operation. -/
theorem Turn.concerted {deed : Deed} (turn : room.Turn deed after)
    (concerted : room.game.Concerted) : after.game.Concerted := by
  have bench (id : UserId) (slot : Nat) : (room.bench id slot).game.Concerted := by
    unfold Room.bench
    split
    · exact concerted.hush slot
    · exact .of_idle (room.game.hush slot).queues_endRound fun gathering => by cases gathering
  cases turn with
  | rest => exact concerted
  | join new waiting space => exact concerted.of_flags rfl rfl rfl
  | start waiting someone actions =>
      refine ⟨fun _ => rfl, fun on => ?_, fun playing => ?_⟩
      · cases on
      · cases playing
  | mark gathering =>
      have off := concerted.gathers gathering
      refine ⟨fun _ => off, fun on => ?_, fun playing => ?_⟩
      · rw [off] at on
        cases on
      · rw [gathering] at playing
        cases playing
  | @play id slot gathering all =>
      refine ⟨fun still => ?_, fun _ many => ?_, fun _ off => ?_⟩
      · cases still
      · rw [Game.synchedCount, List.countP_eq_length.mpr all]
        exact many
      · cases off
  | @drop id slot member seat => exact bench id slot
  | @quit id member =>
      rcases room.left_cases id with goes | ⟨slot, -, goes⟩
      · rw [goes]
        exact concerted.of_flags rfl rfl rfl
      · rw [goes]
        exact (bench id slot).of_flags rfl rfl rfl
  | bar kicked => exact concerted.of_flags rfl rfl rfl
  | @close id silent dims off =>
      exact .of_idle (Game.queues_endRound _) fun _ => (Game.synched_endRound _).trans off
  | gap slot => exact concerted.hush slot
  | work isWork chores =>
      exact chores.keeps (fun game _ => game.Concerted)
        (fun chore => chore.concerted) concerted

end Room

/-! ## As long as play goes on -/

namespace Game

/-- If the second game is being played, so was the first, and since then its queues
have aged or are gone. -/
def Fades (game later : Game) : Prop :=
  later.status = .playing →
    game.status = .playing ∧ (later.queues = [] ∨ QueuesAge game.queues later.queues)

section Fades

variable {game later last : Game}

theorem Fades.of_age (status : later.status = game.status)
    (ages : QueuesAge game.queues later.queues) : game.Fades later :=
  fun playing => ⟨status.symm.trans playing, .inr ages⟩

theorem Fades.refl (game : Game) : game.Fades game := .of_age rfl (.refl _)

/-- A game that is not being played is none that fades. -/
theorem Fades.of_pause (pause : later.status ≠ .playing) : game.Fades later :=
  fun playing => absurd playing pause

theorem Fades.trans (one : game.Fades later) (two : later.Fades last) : game.Fades last := by
  intro playing
  obtain ⟨before, lastAges⟩ := two playing
  obtain ⟨first, ages⟩ := one before
  refine ⟨first, ?_⟩
  rcases lastAges with none | lastAges
  · exact .inl none
  · rcases ages with none | ages
    · exact .inl (lastAges.eq_nil_iff.mpr none)
    · exact .inr (ages.trans lastAges)

end Fades

end Game

namespace Room

variable {room after : Room} {deed : Deed}

/-- A player that is dropped takes its queue along. -/
theorem fades_bench (id : UserId) (slot : Nat) : room.game.Fades (room.bench id slot).game := by
  unfold bench
  split
  · have works := Game.Works.of_dims (room.game.dims_hush slot)
    obtain ⟨_, _, _, _, _, frame⟩ := works.frame
    refine .of_age ?_ works.queues
    simp only
    rw [frame]
  · exact .of_pause fun playing => by cases playing

/-- Only the signal of being ready brings queues into synchrony. -/
theorem Turn.fades (turn : room.Turn deed after) (other : ∀ user, deed ≠ .ready user) :
    room.game.Fades after.game := by
  cases turn with
  | rest => exact .refl _
  | join new waiting space => exact .of_age rfl (.refl _)
  | start waiting someone actions => exact .of_pause fun playing => by cases playing
  | mark gathering => exact absurd rfl (other _)
  | play gathering all => exact absurd rfl (other _)
  | drop member seat => exact fades_bench _ _
  | @quit id member =>
      rcases room.left_cases id with goes | ⟨slot, -, goes⟩
      · rw [goes]
        exact .of_age rfl (.refl _)
      · rw [goes]
        exact (fades_bench id slot).trans (.of_age rfl (.refl _))
  | bar kicked => exact .of_age rfl (.refl _)
  | @close id silent dims off =>
      have status : ({ silent with members := [] }.endRound).status = room.game.status :=
        (Game.status_endRound _).trans dims.status
      exact fun playing => ⟨status.symm.trans playing, .inl (Game.queues_endRound _)⟩
  | gap slot =>
      have works := Game.Works.of_dims (room.game.dims_hush slot)
      obtain ⟨_, _, _, _, _, frame⟩ := works.frame
      refine .of_age ?_ works.queues
      simp only
      rw [frame]
  | work isWork chores =>
      have works := chores.works
      obtain ⟨_, _, _, _, _, frame⟩ := works.frame
      refine .of_age ?_ works.queues
      simp only
      rw [frame]

/-- And that signal is of no account but while players get ready. -/
theorem Turn.unready {user : UserId} (turn : room.Turn (.ready user) after) :
    after.game = room.game ∨ room.game.status = .synchronizing := by
  cases turn with
  | rest => exact .inl rfl
  | mark gathering => exact .inr gathering
  | play gathering all => exact .inr gathering
  | work isWork chores => cases isWork

end Room

namespace Game

/-- The second game has come from the first one by operations, after each of which
it was still being played. -/
inductive PlaysThrough (game : Game) : Game → Prop where
  | start (playing : game.status = .playing) : PlaysThrough game game
  | perform {room : Room} {deed : Room.Deed} (before : PlaysThrough game room.game)
      (fits : deed.Fits room) (still : (room.perform deed).1.game.status = .playing) :
      PlaysThrough game (room.perform deed).1.game

section PlaysThrough

variable {game later last : Game}

theorem PlaysThrough.playing (through : game.PlaysThrough later) : later.status = .playing := by
  cases through with
  | start playing => exact playing
  | perform before fits still => exact still

theorem PlaysThrough.trans (one : game.PlaysThrough later) (two : later.PlaysThrough last) :
    game.PlaysThrough last := by
  induction two with
  | start playing => exact one
  | perform before fits still inductionHypothesis =>
      exact .perform inductionHypothesis fits still

theorem PlaysThrough.began (through : game.PlaysThrough later) : game.status = .playing := by
  induction through with
  | start playing => exact playing
  | perform before fits still inductionHypothesis => exact inductionHypothesis

/-- As long as it is being played, a game fades. -/
theorem PlaysThrough.fades (through : game.PlaysThrough later) : game.Fades later := by
  induction through with
  | start playing => exact .refl game
  | @perform room deed before fits still inductionHypothesis =>
      refine inductionHypothesis.trans ?_
      have turn := Room.turn_perform fits
      by_cases ready : ∃ user, deed = .ready user
      · obtain ⟨user, rfl⟩ := ready
        rcases turn.unready with same | gathering
        · rw [same]
          exact .refl _
        · rw [before.playing] at gathering
          cases gathering
      · exact turn.fades fun user isReady => ready ⟨user, isReady⟩

end PlaysThrough

/-- Whatever is reached is in concert. -/
theorem Reached.concerted {game : Game} (reached : game.Reached) : game.Concerted := by
  induction reached with
  | create number name owner settings => exact .of_idle rfl fun _ => rfl
  | perform before fits inductionHypothesis =>
      exact (Room.turn_perform fits).concerted inductionHypothesis

/-- However a game has come about: input is merged only while two queues or more
are in synchrony, if there are two; once it is played without merging, no queue is
in synchrony; and as long as it is being played, no queue comes back into it. -/
theorem Reached.in_concert {game : Game} (reached : game.Reached) :
    (game.synched = true → 2 ≤ game.queues.length → 2 ≤ game.synchedCount) ∧
      (game.status = .playing → game.synched = false →
        ∀ queue ∈ game.queues, queue.synched = false) ∧
      ∀ later, game.PlaysThrough later → ∀ (slot : Nat) (queue after : ActionQueue),
        game.queues[slot]? = some queue → later.queues[slot]? = some after →
          queue.synched = false → after.synched = false := by
  have concerted := reached.concerted
  refine ⟨concerted.enough, concerted.mute,
    fun later through slot queue after place found off => ?_⟩
  obtain ⟨-, none | ages⟩ := through.fades through.playing
  · rw [none] at found
    cases found
  · obtain ⟨before, here, aged⟩ := ages.each slot after found
    obtain rfl : before = queue := Option.some.inj (here.symm.trans place)
    cases on : after.synched with
    | false => rfl
    | true => rw [← off, aged.synched on]

end Game

namespace Venue

variable {venue : Venue}

/-- The live game with a number is being played. -/
def Plays (venue : Venue) (number : GameId) : Prop :=
  ∃ game ∈ venue.lobby.games, game.id = number ∧ game.status = .playing

instance (venue : Venue) (number : GameId) : Decidable (venue.Plays number) :=
  inferInstanceAs (Decidable (∃ game ∈ venue.lobby.games, _ ∧ _))

/-- Only one kind of move signals that a user is ready. -/
theorem asks_ready {move : Move} {user : UserId} (asked : venue.Asks move (.ready user)) :
    ∃ user, move = .ready user := by
  cases move with
  | ready other => exact ⟨other, rfl⟩
  | login _ | quit _ _ | leave _ =>
      obtain ⟨_, quits | closes⟩ := asked
      · cases quits
      · cases closes
  | kick _ _ =>
      obtain bars | ⟨_, quits | closes⟩ := asked
      · cases bars
      · cases quits
      · cases closes
  | retry _ _ =>
      obtain ⟨_, -, retries⟩ := asked
      cases retries
  | _ => cases asked

/-- A game that is being played before and after a move has been so all through. -/
theorem playsThrough_step {settings : Settings}
    (kept : venue.lobby.Kept settings venue.created) {move : Move} {game later : Game}
    (member : game ∈ venue.lobby.allGames)
    (after : later ∈ (venue.step move).lobby.allGames) (number : later.id = game.id)
    (playing : game.status = .playing) (still : later.status = .playing) :
    game.PlaysThrough later := by
  by_cases ready : ∃ user, move = .ready user
  · obtain ⟨user, rfl⟩ := ready
    obtain ⟨source, origin, name, unready⟩ := venue.follows_step
      (fun game later =>
        later.id = game.id ∧ (later = game ∨ game.status = .synchronizing))
      (fun _ => ⟨rfl, .inl rfl⟩)
      (fun {one two three} first second => ⟨second.1.trans first.1, by
        rcases first.2 with same | gathering
        · exact same ▸ second.2
        · exact .inr gathering⟩)
      (fun room deed asked fits => by
        cases asked
        have turn := Room.turn_perform fits
        exact ⟨turn.number, turn.unready⟩)
      later after
    rcases origin with old | ⟨-, blank⟩
    · obtain rfl := game_unique kept member old (name.symm.trans number)
      rcases unready with rfl | gathering
      · exact .start playing
      · rw [playing] at gathering
        cases gathering
    · obtain ⟨_, _, _, _, rfl⟩ := blank
      rcases unready with rfl | gathering
      · cases still
      · cases gathering
  · -- No other operation begins play, so play at the end is play before each of them.
    obtain ⟨source, origin, name, through⟩ := venue.follows_step
      (fun game later =>
        later.id = game.id ∧ (later.status = .playing → game.PlaysThrough later))
      (fun game => ⟨rfl, .start⟩)
      (fun first second => ⟨second.1.trans first.1, fun plays =>
        (first.2 (second.2 plays).began).trans (second.2 plays)⟩)
      (fun room deed asked fits => by
        have turn := Room.turn_perform fits
        refine ⟨turn.number, fun plays => ?_⟩
        obtain ⟨before, -⟩ := turn.fades (fun user isReady => by
          subst isReady
          exact ready (asks_ready asked)) plays
        exact .perform (.start before) fits plays)
      later after
    rcases origin with old | ⟨-, blank⟩
    · exact game_unique kept member old (name.symm.trans number) ▸ through still
    · obtain ⟨_, _, _, _, rfl⟩ := blank
      cases (through still).began

/-- So has a game that is being played before and after each of a row of moves. -/
theorem playsThrough_run {settings : Settings}
    (kept : venue.lobby.Kept settings venue.created) {moves : List Move} {game later : Game}
    (live : game ∈ venue.lobby.games) (after : later ∈ (venue.run moves).lobby.games)
    (number : later.id = game.id) (on : venue.Throughout (·.Plays game.id) moves) :
    game.PlaysThrough later := by
  induction moves generalizing venue game with
  | nil =>
      obtain ⟨other, otherLive, name, playing⟩ := on
      obtain rfl := game_unique kept (List.mem_append_left _ live)
        (List.mem_append_left _ otherLive) name
      obtain rfl := game_unique kept (List.mem_append_left _ live)
        (List.mem_append_left _ after) number
      exact .start playing
  | cons move rest inductionHypothesis =>
      obtain ⟨⟨other, otherLive, name, playing⟩, still⟩ := on
      obtain rfl := game_unique kept (List.mem_append_left _ live)
        (List.mem_append_left _ otherLive) name
      obtain ⟨middle, middleLive, same, plays⟩ := still.first
      have step := playsThrough_step kept (List.mem_append_left _ live)
        (List.mem_append_left _ middleLive) same playing plays
      rw [← same] at still number
      exact step.trans (inductionHypothesis (kept_step kept move) middleLive after number still)

/-- A message of Cy is lost.  Ada and Bo go on merging. -/
def lostPacket : List Move := [.input 1 [1], .gap 3, .input 2 [2], .retry 1 0]

theorem in_concert_lostPacket :
    ((opened {}).run trio).lobby.games.map Game.flags = [[true, true, true]] ∧
      (((opened {}).run trio).run lostPacket).lobby.games.map Game.flags =
        [[true, true, false]] ∧
      ∀ game ∈ ((opened {}).run trio).lobby.games,
        ∀ later ∈ (((opened {}).run trio).run lostPacket).lobby.games,
          game.Reached ∧ game.PlaysThrough later ∧
            ∀ (slot : Nat) (queue after : ActionQueue), game.queues[slot]? = some queue →
              later.queues[slot]? = some after → queue.synched = false →
                after.synched = false := by
  refine ⟨by decide +kernel, by decide +kernel, fun game live later after => ?_⟩
  have number : ∀ game ∈ ((opened {}).run trio).lobby.games, game.id = 1 := by decide +kernel
  have still : ∀ game ∈ (((opened {}).run trio).run lostPacket).lobby.games, game.id = 1 := by
    decide +kernel
  have on : ((opened {}).run trio).Throughout (·.Plays 1) lostPacket := by decide +kernel
  rw [← number game live] at on
  have reached := reached_run {} trio game (List.mem_append_left _ live)
  have through := playsThrough_run (kept_opened {} trio) live after
    ((still later after).trans (number game live).symm) on
  exact ⟨reached, through, reached.in_concert.2.2 later through⟩

end Venue

end Netplay
