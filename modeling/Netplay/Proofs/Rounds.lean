/-
Module: Netplay.Proofs.Rounds
Purpose: The queues of a round, current or ended, and what the operations on a
  game do to them and to the merges in flight.
Main exports:
  Game.roundQueues, Game.roundQueues_setQueueAt, Game.roundQueues_endRound,
  Game.Dims, Game.dims_silence, Game.dims_desynchAll, Game.dims_desynchIfAlone,
  Game.endRound_frame, Game.commence, Game.Seated.idle, Game.Seated.start
-/
import Netplay.Proofs.Round
import Netplay.Proofs.Seating

namespace Netplay

open RoundView (QueuesFade)

theorem ActionQueue.seat_add (queue : ActionQueue) (data : Bytes) :
    (queue.add data).seat = queue.seat := by
  simp [ActionQueue.seat]

theorem ActionQueue.seat_setSynched (queue : ActionQueue) (synched : Bool) :
    (queue.setSynched synched).seat = queue.seat := by
  unfold ActionQueue.setSynched
  split
  · rfl
  · cases synched with
    | true => rfl
    | false => simp [ActionQueue.seat]

namespace RoundView.QueuesFade

variable {before after last : List ActionQueue}

theorem refl (queues : List ActionQueue) : QueuesFade queues queues :=
  ⟨rfl, fun _ later place => ⟨later, place, .refl later⟩⟩

theorem of_eq (same : after = before) : QueuesFade before after :=
  same ▸ refl before

theorem trans (one : QueuesFade before after) (two : QueuesFade after last) :
    QueuesFade before last := by
  refine ⟨two.1.trans one.1, fun slot later place => ?_⟩
  obtain ⟨middle, middlePlace, fades⟩ := two.2 slot later place
  obtain ⟨queue, queuePlace, fadesBefore⟩ := one.2 slot middle middlePlace
  exact ⟨queue, queuePlace, fadesBefore.trans fades⟩

/-- One queue fades and the others stay. -/
theorem set {slot : Nat} {queue later : ActionQueue}
    (place : before[slot]? = some queue) (fades : queue.Fades later) :
    QueuesFade before (before.set slot later) := by
  refine ⟨List.length_set .., fun other target otherPlace => ?_⟩
  rw [List.getElem?_set] at otherPlace
  split at otherPlace
  · rename_i same
    subst same
    split at otherPlace
    · cases otherPlace
      exact ⟨queue, place, fades⟩
    · cases otherPlace
  · exact ⟨target, otherPlace, .refl target⟩

theorem seats (fade : QueuesFade before after) :
    after.map (·.seat) = before.map (·.seat) := by
  apply fields_eq fade.1
  intro slot later place
  obtain ⟨queue, queuePlace, fades⟩ := fade.2 slot later place
  refine ⟨queue, queuePlace, ?_⟩
  rw [ActionQueue.seat, fades.user, fades.readers, fades.capacity, ActionQueue.seat]

/-- Queues out of synchrony stay so. -/
theorem silent (fade : QueuesFade before after)
    (silent : ∀ queue ∈ before, queue.synched = false) :
    ∀ queue ∈ after, queue.synched = false := by
  intro later member
  obtain ⟨slot, place⟩ := List.getElem?_of_mem member
  obtain ⟨queue, queuePlace, fades⟩ := fade.2 slot later place
  cases flag : later.synched with
  | false => rfl
  | true =>
      have was := silent queue (List.mem_of_getElem? queuePlace)
      rw [fades.synched flag] at was
      cases was

/-- Empty queues stay empty. -/
theorem isEmpty (fade : QueuesFade before after)
    (empty : ∀ queue ∈ before, queue.IsEmpty) : ∀ queue ∈ after, queue.IsEmpty := by
  intro later member
  obtain ⟨slot, place⟩ := List.getElem?_of_mem member
  obtain ⟨queue, queuePlace, fades⟩ := fade.2 slot later place
  exact fades.isEmpty (empty queue (List.mem_of_getElem? queuePlace))

end RoundView.QueuesFade

namespace Game

/-! ## The queues of a round -/

/-- The queues of the ended round with a given number that are kept. -/
def endedQueues (game : Game) (round : Nat) : List ActionQueue :=
  ((game.ended.find? (·.number = round)).map (·.queues)).getD []

/-- The queues of a round, none when they are not kept. -/
def roundQueues (game : Game) (round : Nat) : List ActionQueue :=
  if round = game.round ∧ game.queues ≠ [] then game.queues
  else game.endedQueues round

/-- While a round is on, its queues are those of the game. -/
theorem roundQueues_current {game : Game} (on : game.queues ≠ []) :
    game.roundQueues game.round = game.queues :=
  if_pos ⟨rfl, on⟩

/-- All other rounds have ended. -/
theorem roundQueues_of_ne {game : Game} {round : Nat} (past : round ≠ game.round) :
    game.roundQueues round = game.endedQueues round :=
  if_neg fun now => past now.1

theorem queueAt?_eq (game : Game) (round slot : Nat) :
    game.queueAt? round slot = (game.roundQueues round)[slot]? := by
  unfold queueAt? roundQueues endedQueues
  split
  · rfl
  · cases game.ended.find? (·.number = round) with
    | none => rfl
    | some ended => rfl

/-- A message is written to the queue in a place. -/
def write (game : Game) (slot : Nat) (data : Bytes) : Game :=
  { game with queues := game.queues.modify slot (·.add data) }

theorem write_queues_ne_nil {game : Game} (on : game.queues ≠ []) (slot : Nat)
    (data : Bytes) : (game.write slot data).queues ≠ [] := by
  apply List.ne_nil_of_length_pos
  exact Nat.lt_of_lt_of_eq (List.length_pos_iff.mpr on) (List.length_modify ..).symm

/-- Writing changes one queue of the current round. -/
theorem roundQueues_write {game : Game} (on : game.queues ≠ []) (slot : Nat)
    (data : Bytes) (round : Nat) :
    (game.write slot data).roundQueues round =
      if round = game.round then game.queues.modify slot (·.add data)
      else game.roundQueues round := by
  split
  · rename_i same
    exact if_pos ⟨same, write_queues_ne_nil on slot data⟩
  · rename_i past
    rw [roundQueues_of_ne past]
    exact roundQueues_of_ne past

theorem length_roundQueues_write {game : Game} (on : game.queues ≠ []) (slot : Nat)
    (data : Bytes) (round : Nat) :
    ((game.write slot data).roundQueues round).length =
      (game.roundQueues round).length := by
  rw [roundQueues_write on]
  split
  · rename_i same
    rw [List.length_modify, same, roundQueues_current on]
  · rfl

/-- Replacing a queue changes one queue of one round. -/
theorem roundQueues_setQueueAt (game : Game) (round slot : Nat) (queue : ActionQueue)
    (other : Nat) :
    (game.setQueueAt round slot queue).roundQueues other =
      if other = round then (game.roundQueues round).set slot queue
      else game.roundQueues other := by
  have some : game.queues.set slot queue ≠ [] ↔ game.queues ≠ [] := by
    rw [Ne, List.set_eq_nil_iff]
  unfold setQueueAt
  split
  · rename_i current
    obtain ⟨rfl, on⟩ := current
    by_cases same : other = game.round
    · subst same
      rw [if_pos rfl, roundQueues_current on]
      exact if_pos ⟨rfl, some.mpr on⟩
    · rw [if_neg same]
      simp [roundQueues, endedQueues, same]
  · rename_i past
    have search : ((game.ended.map fun ended =>
          if ended.number = round then
            { ended with queues := ended.queues.set slot queue }
          else ended).find? (·.number = other)) =
        (game.ended.find? (·.number = other)).map fun ended =>
          if ended.number = round then
            { ended with queues := ended.queues.set slot queue }
          else ended := by
      rw [List.find?_map]
      congr 2
      funext ended
      simp only [Function.comp_apply]
      split <;> rfl
    by_cases same : other = round
    · subst same
      rw [if_pos rfl, roundQueues, if_neg past, roundQueues, if_neg past]
      simp only [endedQueues, search]
      cases found : game.ended.find? (·.number = other) with
      | none => rfl
      | some ended =>
          have number : ended.number = other := by simpa using List.find?_some found
          simp [number]
    · rw [if_neg same]
      have kept : (game.ended.find? (·.number = other)).map (fun ended =>
            if ended.number = round then
              { ended with queues := ended.queues.set slot queue }
            else ended) = game.ended.find? (·.number = other) := by
        cases found : game.ended.find? (·.number = other) with
        | none => rfl
        | some ended =>
            have number : ended.number = other := by simpa using List.find?_some found
            rw [Option.map_some, if_neg (number ▸ same)]
      simp only [roundQueues, endedQueues, search, kept]

/-- Replacing a queue changes the queues of the current round or those of ended
ones, and nothing else. -/
theorem setQueueAt_frame (game : Game) (round slot : Nat) (queue : ActionQueue) :
    ∃ queues ended,
      game.setQueueAt round slot queue =
        { game with queues := queues, ended := ended } ∧
      (queues = game.queues ∨
        round = game.round ∧ queues = game.queues.set slot queue) := by
  unfold setQueueAt
  split
  · rename_i current
    exact ⟨_, _, rfl, Or.inr ⟨current.1, rfl⟩⟩
  · exact ⟨_, _, rfl, Or.inl rfl⟩

/-- Ending a round keeps the queues of the rounds that still have a merge in
flight and no others. -/
theorem roundQueues_endRound {game : Game} (on : game.queues ≠ []) (round : Nat) :
    game.endRound.roundQueues round =
      if game.inFlight.any (·.merge.round = round) then game.roundQueues round
      else [] := by
  have ends : game.endRound.roundQueues round =
      (((⟨game.round, game.queues⟩ :: game.ended).filter fun ended =>
        game.inFlight.any (·.merge.round = ended.number)).find?
          (·.number = round)).elim [] (·.queues) := by
    unfold roundQueues endRound endedQueues
    rw [if_neg on, if_neg (by simp)]
    cases List.find? _ _ <;> rfl
  rw [ends, List.find?_filter]
  by_cases reads : game.inFlight.any (·.merge.round = round)
  · have search : (fun ended : EndedRound =>
        decide (game.inFlight.any (·.merge.round = ended.number) = true ∧
          decide (ended.number = round) = true)) =
          fun ended : EndedRound => decide (ended.number = round) := by
      funext ended
      by_cases same : ended.number = round
      · simp [same, reads]
      · simp [same]
    rw [if_pos reads, search, List.find?_cons]
    by_cases current : round = game.round
    · simp [current, roundQueues_current on]
    · simp only [Ne.symm current, decide_false, roundQueues, current, false_and, if_false,
        endedQueues]
      cases game.ended.find? (·.number = round) <;> rfl
  · have search : (fun ended : EndedRound =>
        decide (game.inFlight.any (·.merge.round = ended.number) = true ∧
          decide (ended.number = round) = true)) = fun _ => false := by
      funext ended
      by_cases same : ended.number = round
      · simp [same, reads]
      · simp [same]
    rw [if_neg reads, search, List.find?_eq_none.mpr (by simp)]
    rfl

/-! ## Going out of synchrony -/

/-- The second game is the first one after queues have gone out of synchrony,
merges were woken and time-outs noted.  If it merges no more, no queue is left
in synchrony. -/
structure Dims (game after : Game) : Prop where
  frame : ∃ queues waiting woken synched,
    after = { game with
      queues := queues, waiting := waiting, woken := woken, synched := synched }
  queues : QueuesFade game.queues after.queues
  inFlight : after.inFlight.Perm game.inFlight
  synched : after.synched = true → game.synched = true
  mute : game.synched = true → after.synched = false →
    ∀ queue ∈ after.queues, queue.synched = false

namespace Dims

variable {game after last : Game}

theorem refl (game : Game) : game.Dims game where
  frame := ⟨_, _, _, _, rfl⟩
  queues := .refl _
  inFlight := .refl _
  synched := fun on => on
  mute := fun on off => by rw [on] at off; cases off

theorem trans (one : game.Dims after) (two : after.Dims last) : game.Dims last where
  frame := by
    obtain ⟨_, _, _, _, rfl⟩ := one.frame
    exact two.frame
  queues := one.queues.trans two.queues
  inFlight := two.inFlight.trans one.inFlight
  synched := fun flag => one.synched (two.synched flag)
  mute := fun on off => by
    cases flag : after.synched with
    | true => exact two.mute flag off
    | false => exact two.queues.silent (one.mute on flag)

/-- The queues of every round fade. -/
theorem roundQueues (dims : game.Dims after) (round : Nat) :
    QueuesFade (game.roundQueues round) (after.roundQueues round) := by
  have none : after.queues = [] ↔ game.queues = [] := by
    rw [← List.length_eq_zero_iff, dims.queues.1, List.length_eq_zero_iff]
  obtain ⟨queues, waiting, woken, synched, rfl⟩ := dims.frame
  unfold Game.roundQueues
  by_cases current : round = game.round ∧ game.queues ≠ []
  · rw [if_pos current, if_pos ⟨current.1, fun gone => current.2 (none.mp gone)⟩]
    exact dims.queues
  · rw [if_neg current, if_neg fun now => current ⟨now.1, fun gone =>
      now.2 (none.mpr gone)⟩]
    exact .refl _

theorem seats (dims : game.Dims after) : after.seats = game.seats :=
  dims.queues.seats

theorem id (dims : game.Dims after) : after.id = game.id := by
  obtain ⟨_, _, _, _, frame⟩ := dims.frame
  rw [frame]

theorem status (dims : game.Dims after) : after.status = game.status := by
  obtain ⟨_, _, _, _, frame⟩ := dims.frame
  rw [frame]

theorem round (dims : game.Dims after) : after.round = game.round := by
  obtain ⟨_, _, _, _, frame⟩ := dims.frame
  rw [frame]

end Dims

/-- Waking merges changes nothing but their order. -/
theorem dims_wake (game : Game) (round slot : Nat) :
    game.Dims (game.wake round slot) where
  frame := ⟨_, _, _, _, rfl⟩
  queues := .refl _
  inFlight := by
    have order : (game.wake round slot).inFlight =
        game.waiting.filter (fun parked => !awaits round slot parked) ++
          (game.woken ++ game.waiting.filter (awaits round slot)) := rfl
    rw [order]
    apply List.perm_append_comm.trans
    rw [List.append_assoc]
    exact ((List.filter_append_perm (awaits round slot) game.waiting).append_left
      game.woken).trans List.perm_append_comm
  synched := fun on => on
  mute := fun on off => by
    have same : (game.wake round slot).synched = game.synched := rfl
    rw [same, on] at off
    cases off

/-- Replacing a queue by one that has faded. -/
theorem dims_set {game : Game} {slot : Nat} {queue later : ActionQueue}
    (place : game.queues[slot]? = some queue) (fades : queue.Fades later) :
    game.Dims { game with queues := game.queues.set slot later } where
  frame := ⟨_, _, _, _, rfl⟩
  queues := .set place fades
  inFlight := .refl _
  synched := fun on => on
  mute := fun on off => by rw [on] at off; cases off

theorem dims_silence (game : Game) (slot : Nat) : game.Dims (game.silence slot) := by
  unfold silence
  split
  · exact .refl game
  · rename_i queue place
    split
    · exact (dims_set place (.setSynched queue)).trans (dims_wake ..)
    · exact .refl game

@[simp] theorem synched_silence (game : Game) (slot : Nat) :
    (game.silence slot).synched = game.synched := by
  unfold silence
  repeat' split
  all_goals rfl

/-- The queue that is silenced is out of synchrony. -/
theorem silent_silence (game : Game) (slot : Nat) {queue : ActionQueue}
    (place : (game.silence slot).queues[slot]? = some queue) :
    queue.synched = false := by
  unfold silence at place
  split at place
  · rename_i none
    rw [none] at place
    cases place
  · rename_i earlier before
    split at place
    · have inside := (List.getElem?_eq_some_iff.mp before).1
      have here : (game.queues.set slot (earlier.setSynched false))[slot]? =
        some queue := place
      rw [List.getElem?_set_self inside] at here
      cases here
      unfold ActionQueue.setSynched
      split
      · assumption
      · rfl
    · rename_i silent
      rw [before] at place
      cases place
      exact Bool.eq_false_iff.mpr silent

/-- Silencing one queue after the other leaves none of them in synchrony. -/
theorem dims_foldl_silence (slots : List Nat) (game : Game) :
    game.Dims (slots.foldl silence game) ∧
      (slots.foldl silence game).synched = game.synched ∧
      ∀ slot ∈ slots, ∀ queue, (slots.foldl silence game).queues[slot]? = some queue →
        queue.synched = false := by
  induction slots generalizing game with
  | nil => exact ⟨.refl game, rfl, fun slot member => by cases member⟩
  | cons first rest inductionHypothesis =>
      obtain ⟨dims, synched, silent⟩ := inductionHypothesis (game.silence first)
      rw [List.foldl_cons]
      refine ⟨(dims_silence game first).trans dims, synched.trans (synched_silence ..), ?_⟩
      intro slot member queue place
      rcases List.mem_cons.mp member with rfl | inRest
      · obtain ⟨earlier, before, fades⟩ := dims.queues.2 slot queue place
        cases flag : queue.synched with
        | false => rfl
        | true =>
            have off := silent_silence game slot before
            rw [fades.synched flag] at off
            cases off
      · exact silent slot inRest queue place

theorem dims_desynchAll (game : Game) :
    game.Dims game.desynchAll ∧ game.desynchAll.synched = false := by
  obtain ⟨dims, synched, silent⟩ :=
    dims_foldl_silence (List.range game.queues.length) { game with synched := false }
  have off : game.desynchAll.synched = false := synched
  refine ⟨⟨?_, dims.queues, dims.inFlight, fun on => ?_, fun _ _ queue member => ?_⟩, off⟩
  · exact dims.frame
  · rw [off] at on
    cases on
  · obtain ⟨slot, place⟩ := List.getElem?_of_mem member
    have inside : slot < game.queues.length := by
      rw [← dims.queues.1]
      exact (List.getElem?_eq_some_iff.mp place).1
    exact silent slot (List.mem_range.mpr inside) queue place

theorem dims_desynchIfAlone (game : Game) : game.Dims game.desynchIfAlone.1 := by
  unfold desynchIfAlone
  split
  · exact (dims_desynchAll game).1
  · exact .refl game

end Game

/-- A time-out blamed on a player only puts queues out of synchrony. -/
theorem Room.noteTimeout_dims (room : Room) (timeout : ReadTimeout) :
    room.game.Dims (room.noteTimeout timeout).1.game ∧
      (room.noteTimeout timeout).1.people = room.people := by
  unfold noteTimeout
  simp only
  split
  · exact ⟨.refl _, rfl⟩
  · split
    · exact ⟨.refl _, rfl⟩
    · rename_i queue place
      have noted := Game.dims_set place (.noteTimeout queue timeout)
      split
      · exact ⟨.refl _, rfl⟩
      · split
        · exact ⟨noted, rfl⟩
        · exact ⟨(noted.trans (Game.dims_silence _ _)).trans
            (Game.dims_desynchIfAlone _), rfl⟩

namespace Game

/-! ## Rounds that end and start -/

theorem endRound_frame (game : Game) :
    ∃ users ended, game.endRound =
      { game with queues := [], queueUsers := users, ended := ended } := by
  unfold endRound
  split
  · rename_i none
    refine ⟨game.queueUsers, game.ended, ?_⟩
    rw [← none]
  · exact ⟨_, _, rfl⟩

section EndRound

variable (game : Game)

@[simp] theorem queues_endRound : game.endRound.queues = [] := by
  obtain ⟨_, _, frame⟩ := game.endRound_frame
  rw [frame]

@[simp] theorem round_endRound : game.endRound.round = game.round := by
  obtain ⟨_, _, frame⟩ := game.endRound_frame
  rw [frame]

@[simp] theorem status_endRound : game.endRound.status = game.status := by
  obtain ⟨_, _, frame⟩ := game.endRound_frame
  rw [frame]

@[simp] theorem synched_endRound : game.endRound.synched = game.synched := by
  obtain ⟨_, _, frame⟩ := game.endRound_frame
  rw [frame]

/-- Its merges stay in flight. -/
@[simp] theorem inFlight_endRound : game.endRound.inFlight = game.inFlight := by
  obtain ⟨_, _, frame⟩ := game.endRound_frame
  rw [frame]
  rfl

end EndRound

theorem endRound_members (game : Game) (members : List UserId) :
    endRound { game with members := members } =
      { game.endRound with members := members, status := game.status } := by
  unfold endRound
  simp only
  split
  · rfl
  · rfl

/-- A round that still has a merge in flight keeps its queues. -/
theorem roundQueues_endRound_kept {game : Game} {parked : ParkedMerge}
    (member : parked ∈ game.inFlight) :
    game.endRound.roundQueues parked.merge.round =
      game.roundQueues parked.merge.round := by
  by_cases on : game.queues = []
  · rw [endRound, if_pos on]
  · rw [roundQueues_endRound on, if_pos]
    exact List.any_eq_true.mpr ⟨parked, member, by simp⟩

/-- Queues that are kept are as they were. -/
theorem roundQueues_endRound_eq {game : Game} {round : Nat}
    (kept : game.endRound.roundQueues round ≠ []) :
    game.endRound.roundQueues round = game.roundQueues round := by
  by_cases on : game.queues = []
  · rw [endRound, if_pos on]
  · rw [roundQueues_endRound on] at kept ⊢
    split at kept
    · rename_i reads
      rw [if_pos reads]
    · exact absurd rfl kept

/-- Only a round that is on has places. -/
theorem queues_ne_nil_of_slotFor? {game : Game} {user : User} {slot : Nat}
    (seat : game.slotFor? user = some slot) : game.queues ≠ [] := by
  intro none
  unfold slotFor? at seat
  split at seat
  · cases seat
  · rename_i inside
    rw [not_or, none] at inside
    refine inside.1 (UInt8.toNat_inj.mp ?_)
    exact Nat.eq_zero_of_le_zero (Nat.le_of_not_lt inside.2)

/-- With no round on, members need no seats. -/
theorem Seated.idle {game after : Game} {people later : Roster}
    (seated : game.Seated people) (settings : after.settings = game.settings)
    (members : after.members.Sublist game.members) (none : after.queues = [])
    (status : after.status = .waiting ∨ after.members = [])
    (known : ∀ member ∈ after.members, (later.find? member).isSome) :
    after.Seated later := by
  have seats : after.seats = [] := List.map_eq_nil_iff.mpr none
  refine ⟨members.nodup seated.nodup, ?_, known, fun _ => seats, fun on _ => ?_, ?_, ?_, ?_⟩
  · rw [settings]
    exact Nat.le_trans members.length_le seated.few
  · rcases status with waiting | gone
    · exact absurd waiting on
    · exact gone
  · rw [seats]
    exact List.nodup_nil
  · rw [seats]
    exact fun _ member => by cases member
  · exact fun on => absurd seats on

/-- The queues of a round that starts, in order of player numbers. -/
def startQueues (game : Game) : List ActionQueue :=
  game.members.zipIdx.map fun (member, index) =>
    ActionQueue.create (UInt8.ofNat (index + 1)) member game.members.length
      game.settings.bufferSize game.settings.timeoutMillis

/-- Each member gets a queue for all of them. -/
theorem getElem?_startQueues (game : Game) (slot : Nat) :
    game.startQueues[slot]? = (game.members[slot]?).map fun member =>
      ActionQueue.create (UInt8.ofNat (slot + 1)) member game.members.length
        game.settings.bufferSize game.settings.timeoutMillis := by
  rw [startQueues, List.getElem?_map, List.getElem?_zipIdx, Option.map_map, Nat.zero_add]
  rfl

theorem users_startQueues (game : Game) : game.startQueues.map (·.user) = game.members := by
  apply List.ext_getElem?
  intro slot
  rw [List.getElem?_map, getElem?_startQueues, Option.map_map]
  cases game.members[slot]? with
  | none => rfl
  | some member => rfl

/-- The players are numbered from one on. -/
theorem player_startQueues {game : Game} {slot : Nat} {queue : ActionQueue}
    (few : game.members.length ≤ game.settings.maxPlayers.toNat)
    (place : game.startQueues[slot]? = some queue) : queue.player.toNat = slot + 1 := by
  rw [getElem?_startQueues] at place
  obtain ⟨member, memberPlace, rfl⟩ := Option.map_eq_some_iff.mp place
  have inside := (List.getElem?_eq_some_iff.mp memberPlace).1
  have most := game.settings.maxPlayers.toNat_lt
  exact Nat.mod_eq_of_lt (by omega)

theorem length_startQueues (game : Game) :
    game.startQueues.length = game.members.length := by
  rw [startQueues, List.length_map, List.length_zipIdx]

theorem isEmpty_startQueues (game : Game) :
    ∀ queue ∈ game.startQueues, queue.IsEmpty := by
  intro queue member
  obtain ⟨entry, -, rfl⟩ := List.mem_map.mp member
  exact ActionQueue.isEmpty_create ..

/-- The game with its next round started. -/
def commence (game : Game) (actions : Nat) : Game :=
  { game with
    round := game.round + 1
    queues := game.startQueues
    queueUsers := game.members
    actionsPerMessage := actions
    synched := false
    status := .synchronizing }

/-- When a round starts, each member is numbered and seated. -/
theorem Seated.start {game : Game} {people : Roster} (seated : game.Seated people)
    {change : UInt8 → User → User}
    (keeps : ∀ player user, (change player user).id = user.id)
    (numbers : ∀ player user, (change player user).player = player) (actions : Nat) :
    (game.commence actions).Seated (Room.numberPlayers people game.members change) := by
  have length : (game.startQueues.map (·.seat)).length = game.members.length := by
    rw [List.length_map, game.length_startQueues]
  have users : (game.startQueues.map (·.seat)).map (·.user) = game.members := by
    rw [List.map_map]
    exact game.users_startQueues
  constructor
  · exact seated.nodup
  · exact seated.few
  · intro member isMember
    rw [Room.isSome_numberPlayers keeps]
    exact seated.known member isMember
  · intro waiting
    cases waiting
  · intro _ none
    exact List.eq_nil_of_length_eq_zero
      (length.symm.trans (congrArg List.length none))
  · exact users ▸ seated.nodup
  · intro seat member
    obtain ⟨queue, queueMember, rfl⟩ := List.mem_map.mp member
    obtain ⟨entry, entryMember, rfl⟩ := List.mem_map.mp queueMember
    have positive : max game.members.length 1 = game.members.length := by
      have inside := (List.mem_zipIdx' entryMember).1
      omega
    constructor
    · refine (List.length_replicate ..).trans (positive.trans length.symm)
    · exact congrArg (_ * ·) (positive.trans length.symm)
  · intro _ member isMember
    obtain ⟨slot, place⟩ := List.getElem?_of_mem isMember
    have inside : slot < game.members.length := (List.getElem?_eq_some_iff.mp place).1
    refine ⟨slot, (ActionQueue.create (UInt8.ofNat (slot + 1)) member game.members.length
      game.settings.bufferSize game.settings.timeoutMillis).seat, ?_, rfl, ?_⟩
    · have queue := game.getElem?_startQueues slot
      rw [show game.members[slot]? = some member from place] at queue
      exact (List.getElem?_map ..).trans (congrArg (Option.map (·.seat)) queue)
    · rw [Room.person_numberPlayers keeps seated.nodup seated.known place, numbers]
      have few := seated.few
      have small := game.settings.maxPlayers.toNat_lt
      exact Nat.mod_eq_of_lt (by omega)

end Game

end Netplay
