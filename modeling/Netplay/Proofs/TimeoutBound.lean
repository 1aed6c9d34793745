/-
Module: Netplay.Proofs.TimeoutBound
Purpose: As long as no member that was dropped signals that it is ready, no
  message of input meets more time-outs than the limit and one for each queue it
  is merged from, whatever happens meanwhile; otherwise there is no bound.
Main exports:
  Room.Calm.acts, Hall.Bounded, Hall.timeouts_le, Hall.timeouts_unbounded
-/
import Netplay.Proofs.Patience

namespace Netplay

/-! ## What users do -/

section Moves

open Game

variable {game after : Game} {merge : Merge}

/-- A merge waits on while its round keeps its queues and every one of them in
synchrony is one of the current round. -/
theorem Game.Waits.of_rounds (waits : game.Waits merge)
    (queues : after.roundQueues merge.round = game.roundQueues merge.round)
    (settings : after.settings = game.settings) (past : merge.round ≤ after.round)
    (apart : after.status = .synchronizing → merge.round ≠ after.round)
    (live : ∀ queue ∈ game.roundQueues merge.round, queue.synched = true →
      after.synched = true ∧ merge.round = after.round ∧ after.queues ≠ []) :
    after.Waits merge where
  bears :=
    ⟨queues ▸ waits.bears.players, waits.bears.reader, queues ▸ waits.bears.readers,
      queues ▸ waits.bears.numbered, past, apart, queues ▸ live⟩
  few := by
    rw [queues, settings]
    exact waits.few

/-- So it does when its round ends, with no queue left in synchrony. -/
theorem Game.Waits.endRound {parked : ParkedMerge} (waits : game.Waits parked.merge)
    (flight : parked ∈ game.inFlight)
    (silent : game.synched = true → ∀ queue ∈ game.queues, queue.synched = false)
    (status : GameStatus) (members : List UserId)
    (apart : status = .synchronizing → parked.merge.round ≠ game.round) :
    Waits { game.endRound with status := status, members := members } parked.merge := by
  obtain ⟨_, _, frame⟩ := game.endRound_frame
  have settings : game.endRound.settings = game.settings := by rw [frame]
  have round : game.endRound.round = game.round := by rw [frame]
  refine waits.of_rounds (roundQueues_endRound_kept flight) settings
    (Nat.le_trans waits.bears.past (Nat.le_of_eq round.symm))
    (fun gathering => round ▸ apart gathering) fun queue member flag => ?_
  obtain ⟨on, current, some⟩ := waits.bears.live queue member flag
  rw [current, roundQueues_current some] at member
  rw [silent on queue member] at flag
  cases flag

/-- Who is a member makes no difference to a merge. -/
theorem Game.Waits.of_members (waits : game.Waits merge) (members kicked : List UserId) :
    Waits { game with members := members, kicked := kicked } merge :=
  waits.of_rounds rfl rfl waits.bears.past waits.bears.apart waits.bears.live

theorem Game.Patient.of_members (patient : game.Patient) (members kicked : List UserId) :
    Patient { game with members := members, kicked := kicked } :=
  ⟨patient.numbered, patient.noted, patient.blameless⟩

/-- A round that is over has no queues. -/
theorem Game.patient_of_nil (none : game.queues = []) : game.Patient := by
  refine ⟨fun slot queue place => ?_, ?_, fun _ => ?_⟩
  · rw [none] at place
    cases place
  · rw [none]
    exact fun queue member => by cases member
  · rw [none]
    exact fun queue member => by cases member

end Moves

namespace Room

open Game

variable {room after : Room} {id : UserId}

/-- The queues of a round that starts stand in order of player numbers, and
nothing has been noted at them. -/
theorem patient_commence (attended : room.game.Attended room.people) (actions : Nat) :
    (room.game.commence actions).Patient := by
  refine ⟨fun slot queue place => ?_, fun queue member => ?_, fun _ queue member => ?_⟩
  · exact player_startQueues attended.seated.few place
  · intro flag
    rw [synched_startQueues room.game queue member] at flag
    cases flag
  · obtain ⟨entry, -, rfl⟩ := List.mem_map.mp member
    rfl

/-- A round starts. -/
theorem calm_start (calm : room.Calm) (waiting : room.game.status = .waiting)
    (actions : Nat) : (room.commence actions).Calm := by
  have none := (calm.attended.idle waiting).1
  have ended : room.game.endRound = room.game := if_pos none
  refine ⟨attended_start calm.attended waiting actions, ?_, fun parked member => ?_⟩
  · rw [commence, ended]
    exact patient_commence calm.attended actions
  · rw [commence, ended] at member ⊢
    have waits := calm.waits parked member
    have past := waits.bears.past
    have earlier : parked.merge.round ≠ room.game.round + 1 := by omega
    refine waits.of_rounds ?_ rfl (Nat.le_succ_of_le past) (fun _ => earlier)
      fun queue queueMember flag => ?_
    · rw [roundQueues_of_ne earlier]
      exact (if_neg fun now => now.2 none).symm
    · exact absurd none (waits.bears.live queue queueMember flag).2.2

/-- A member that plays is ready. -/
theorem calm_ready {slot : Nat} {status : GameStatus} {synched : Bool} (calm : room.Calm)
    (member : id ∈ room.game.members) (gathering : room.game.status = .synchronizing)
    (seat : room.game.slotFor? (room.people.person id) = some slot)
    (next : status = .synchronizing ∧ synched = room.game.synched ∨
      status = .playing ∧ synched = true)
    (plays : (room.people.person id).status = .playing) :
    Calm { room with
      game := { room.game with
        queues := room.game.queues.modify slot (·.setSynched true)
        status := status
        synched := synched } } := by
  refine ⟨attended_ready calm.attended member gathering seat next plays, ?_,
    fun parked flight => ?_⟩
  · have each : ∀ queue ∈ room.marked slot, queue.lastTimeout = none := by
      intro queue queueMember
      obtain ⟨other, place⟩ := List.getElem?_of_mem queueMember
      obtain ⟨old, oldPlace, same⟩ := room.marked_place place
      have blameless := calm.patient.blameless gathering old (List.mem_of_getElem? oldPlace)
      rcases same with rfl | rfl
      · exact blameless
      · exact (old.setSynched_lastTimeout true).trans blameless
    refine ⟨fun other queue place => ?_, fun queue queueMember _ timeout noted => ?_,
      fun _ => each⟩
    · obtain ⟨old, oldPlace, same⟩ := room.marked_place place
      have number := calm.patient.numbered other old oldPlace
      rcases same with rfl | rfl
      · exact number
      · rwa [old.setSynched_player true]
    · rw [each queue queueMember] at noted
      cases noted
  · have waits := calm.waits parked flight
    have earlier := waits.bears.apart gathering
    refine waits.of_rounds ?_ rfl waits.bears.past (fun _ => earlier)
      fun queue queueMember flag => ?_
    · rw [roundQueues_of_ne earlier]
      exact roundQueues_of_ne earlier
    · exact absurd (waits.bears.live queue queueMember flag).2.1 earlier

/-- A member is dropped. -/
theorem calm_bench {slot : Nat} (calm : room.Calm) (member : id ∈ room.game.members)
    (seat : room.game.slotFor? (room.people.person id) = some slot) :
    (room.bench id slot).Calm := by
  have hushed := calm_hush calm slot
  have attended := attended_bench calm.attended member seat
  unfold bench at attended ⊢
  split at attended
  · rename_i plays
    rw [if_pos plays]
    exact ⟨attended, hushed.patient, hushed.waits⟩
  · rename_i nobody
    rw [if_neg nobody]
    have idle := (room.game.hush slot).queues_endRound
    refine ⟨attended, patient_of_nil idle, fun parked parkedMember => ?_⟩
    · have parkedMember : parked ∈ (room.game.hush slot).endRound.inFlight := parkedMember
      rw [Game.inFlight_endRound] at parkedMember
      refine (hushed.waits parked parkedMember).endRound parkedMember
        (fun _ queue queueMember => ?_) .waiting _ fun gathering => by cases gathering
      -- A queue in synchrony would be that of a member that plays.
      cases flag : queue.synched with
      | false => rfl
      | true =>
          obtain ⟨isMember, plays⟩ :=
            manned_hush calm.attended member seat queue queueMember flag
          exact absurd (List.any_eq_true.mpr ⟨queue.user, isMember, decide_eq_true plays⟩)
            nobody

/-- A member leaves. -/
theorem calm_left (calm : room.Calm) (member : id ∈ room.game.members) :
    (room.left id).Calm := by
  have attended := attended_left calm.attended member
  rcases room.left_cases id with stays | ⟨slot, seat, leaves⟩
  · rw [stays] at attended ⊢
    exact ⟨attended, calm.patient.of_members _ _,
      fun parked flight => (calm.waits parked flight).of_members _ _⟩
  · have benched := calm_bench calm member seat
    rw [leaves] at attended ⊢
    exact ⟨attended, benched.patient.of_members _ _,
      fun parked flight => (benched.waits parked flight).of_members _ _⟩

/-- The game is closed. -/
theorem calm_close {silent : Game} (calm : room.Calm) (dims : room.game.Dims silent)
    (off : silent.synched = false) (people : Roster) :
    Calm ⟨{ silent with members := [] }.endRound, people⟩ := by
  have idle := queues_endRound { silent with members := [] }
  refine ⟨attended_closed calm.attended dims off people, patient_of_nil idle,
    fun parked member => ?_⟩
  · have flight : parked ∈ silent.inFlight := by
      rw [inFlight_endRound] at member
      exact member
    have works : room.game.Works silent := .of_dims dims
    have waits := (calm.waits parked (dims.inFlight.mem_iff.mp flight)).works works
    change Waits ({ silent with members := [] }.endRound) parked.merge
    rw [endRound_members]
    refine waits.endRound flight (fun on => ?_) _ _ waits.bears.apart
    rw [off] at on
    cases on

/-- Whatever users do, as long as no dropped member signals that it is ready, the
room stays calm. -/
theorem Calm.acts (calm : room.Calm) (acts : room.Acts after) : after.Calm := by
  cases acts with
  | rest => exact calm
  | joined new waiting space known =>
      exact ⟨attended_joined calm.attended new waiting space known,
        calm.patient.of_members _ _,
        fun parked member => (calm.waits parked member).of_members _ _⟩
  | start waiting => exact calm_start calm waiting _
  | ready member gathering seat next plays =>
      exact calm_ready calm member gathering seat next plays
  | drop member seat => exact calm_bench calm member seat
  | left member => exact calm_left calm member
  | kick kicked =>
      exact ⟨calm.attended.barred kicked, calm.patient.of_members _ _,
        fun parked member => (calm.waits parked member).of_members _ _⟩
  | close dims mute off => exact calm_close calm dims off _
  | gap slot => exact calm_hush calm slot

end Room

/-! ## Runs -/

namespace Hall

/-- The room is calm, every merge in flight is on record, and no record shows more
time-outs than the limit and one for each queue. -/
structure Bounded (limit : Nat) (hall : Hall) : Prop where
  rule : hall.room.game.settings.desynchTimeouts = limit
  calm : hall.room.Calm
  told : ∀ parked ∈ hall.room.game.inFlight, parked.merge.tally ∈ hall.calls
  tickets : (hall.calls.map (·.ticket)).Nodup
  given : ∀ call ∈ hall.calls, call.ticket < hall.nextTicket
  few : ∀ call ∈ hall.calls, call.timeouts ≤ limit + call.queues

namespace Bounded

variable {limit : Nat} {hall : Hall} (bounded : hall.Bounded limit)
include bounded

/-- Users move. -/
theorem act {move : Move} (attentive : ¬ hall.room.RejoinsBy move) :
    Bounded limit { hall with room := hall.room.act move } := by
  have spares := (hall.room.does_act move).spares
  have calm := bounded.calm.acts (hall.room.acts_act attentive)
  refine ⟨?_, calm, fun parked member => ?_, bounded.tickets, bounded.given, bounded.few⟩
  · rw [spares.settings]
    exact bounded.rule
  · exact bounded.told parked (spares.flight.mem_iff.mp member)

/-- A message of input is handed in. -/
theorem input (user : UserId) (data : Bytes) : (hall.input user data).Bounded limit := by
  have calm := Room.calm_addData bounded.calm hall.now hall.nextTicket user data
  have parks := hall.room.parks_addData hall.now hall.nextTicket user data
  have works := hall.room.works_addData hall.now hall.nextTicket user data
  refine ⟨?_, calm, fun parked member => ?_, ?_, fun call member => ?_, fun call member => ?_⟩
  · exact (congrArg GameSettings.desynchTimeouts works.game.settings).trans bounded.rule
  · rcases parks parked member with old | new
    · exact List.mem_append_left _ (bounded.told parked old)
    · rw [new]
      exact List.mem_append_right _ List.mem_cons_self
  · rw [Hall.input, List.map_append]
    refine List.nodup_append.mpr ⟨bounded.tickets, List.nodup_singleton _, ?_⟩
    intro ticket old another new same
    obtain ⟨call, member, rfl⟩ := List.mem_map.mp old
    have before := bounded.given call member
    rw [same, List.mem_singleton.mp new] at before
    exact Nat.lt_irrefl _ before
  · rcases List.mem_append.mp member with old | new
    · exact Nat.lt_succ_of_lt (bounded.given call old)
    · rw [List.mem_singleton.mp new]
      exact Nat.lt_succ_self _
  · rcases List.mem_append.mp member with old | new
    · exact bounded.few call old
    · rw [List.mem_singleton.mp new]
      exact Nat.zero_le _

/-- A time-out of a merge in flight, if it meets one, is added to its record. -/
theorem lapse {parked : ParkedMerge} {counts : Bool} (flight : parked ∈ hall.room.game.inFlight)
    (few : counts → parked.merge.timeouts + 1 ≤ limit + parked.merge.players) :
    ∀ call ∈ hall.calls, ∀ later : TimeoutTally,
      later = (if call.ticket = parked.merge.ticket ∧ counts then call.lapse else call) →
        later.ticket = call.ticket ∧ later.timeouts ≤ limit + later.queues := by
  rintro call member _ rfl
  split
  · rename_i lapses
    have itself : call = parked.merge.tally :=
      List.inj_on_of_nodup_map bounded.tickets member (bounded.told parked flight) lapses.1
    rw [itself]
    exact ⟨rfl, few lapses.2⟩
  · exact ⟨rfl, bounded.few call member⟩

/-- A parked merge is retried. -/
theorem retry (ticket : Nat) : (hall.retry ticket).Bounded limit := by
  unfold Hall.retry
  split
  · exact bounded
  · rename_i parked found
    have flight := List.mem_of_find?_eq_some found
    obtain rfl : parked.merge.ticket = ticket := by simpa using List.find?_some found
    split
    · have works := @Room.works_retry hall.room hall.now parked.merge.ticket parked
      have waits := (bounded.calm.waits parked flight).works
        (hall.room.works_unpark parked.merge.ticket).game
      obtain ⟨calm, few⟩ := Room.calm_resume
        (Room.calm_unpark bounded.calm parked.merge.ticket) waits hall.now
      have parks := (hall.room.unpark parked.merge.ticket).parks_resume hall.now parked
      -- The queues are the same with the merge off the lists.
      have lapses : (hall.room.unpark parked.merge.ticket).lapses hall.now parked =
          hall.room.lapses hall.now parked := rfl
      have rule : (hall.room.unpark parked.merge.ticket).game.settings.desynchTimeouts =
          limit := bounded.rule
      rw [lapses] at parks few
      rw [rule] at few
      have counts := bounded.lapse flight few
      refine ⟨?_, calm, fun other member => ?_, ?_, fun call member => ?_,
        fun call member => ?_⟩
      · exact (congrArg GameSettings.desynchTimeouts works.game.settings).trans bounded.rule
      · rcases parks other member with old | new
        · obtain ⟨before, apart⟩ := Room.mem_inFlight_unpark.mp old
          exact List.mem_map.mpr ⟨other.merge.tally, bounded.told other before,
            if_neg fun both => apart both.1⟩
        · rw [new]
          refine List.mem_map.mpr ⟨parked.merge.tally, bounded.told parked flight, ?_⟩
          have itself : parked.merge.tally.ticket = parked.merge.ticket := rfl
          simp only [itself, true_and]
      · rw [List.map_map]
        exact List.map_congr_left (fun call member => (counts call member _ rfl).1) ▸
          bounded.tickets
      · obtain ⟨before, beforeMember, rfl⟩ := List.mem_map.mp member
        rw [(counts before beforeMember _ rfl).1]
        exact bounded.given before beforeMember
      · obtain ⟨before, beforeMember, rfl⟩ := List.mem_map.mp member
        exact (counts before beforeMember _ rfl).2
    · exact bounded

theorem step {move : Move} (attentive : ¬ hall.room.RejoinsBy move) :
    (hall.step move).Bounded limit := by
  cases move with
  | input user data => exact bounded.input user data
  | retry ticket => exact bounded.retry ticket
  | pass milliseconds =>
      exact ⟨bounded.rule, bounded.calm, bounded.told, bounded.tickets, bounded.given,
        bounded.few⟩
  | _ => exact bounded.act attentive

theorem run {moves : List Move} (attentive : hall.Attentive moves) :
    (hall.run moves).Bounded limit := by
  induction moves generalizing hall with
  | nil => exact bounded
  | cons move rest inductionHypothesis =>
      exact inductionHypothesis (bounded.step attentive.1) attentive.2

end Bounded

/-- Nothing has happened yet. -/
theorem bounded_fresh (id : GameId) (name : String) (owner : User) (settings : GameSettings)
    (people : Roster) :
    (fresh id name owner settings people).Bounded settings.desynchTimeouts where
  rule := rfl
  calm :=
    { attended := .of_waiting ⟨List.nodup_nil, Nat.zero_le _, fun _ member => (by cases member),
        fun _ => rfl, fun busy => absurd rfl busy, List.nodup_nil,
        fun _ member => (by cases member), fun on => absurd rfl on⟩ rfl rfl
      patient := Game.patient_of_nil rfl
      waits := fun _ member => by cases member }
  told := fun _ member => by cases member
  tickets := List.nodup_nil
  given := fun _ member => by cases member
  few := fun _ member => by cases member

/-- A user with one action in each message. -/
def guest (id : UserId) : User :=
  { User.connecting id ⟨"", 0⟩ "" with connectionType := 1 }

/-- A game of three users that tolerates one time-out. -/
def trio : Hall :=
  fresh 1 "" (guest 1) { desynchTimeouts := 2 } ⟨[guest 1, guest 2, guest 3], []⟩

/-- One player sends a message, and the two others do not: it is delayed until
both have gone out of synchrony. -/
def silentRound : List Move :=
  [.join 1, .join 2, .join 3, .start 1, .ready 1, .ready 2, .ready 3, .input 1 [1],
    .pass 1250, .retry 0, .pass 1250, .retry 0, .pass 1250, .retry 0]

theorem run_append (hall : Hall) (first second : List Move) :
    hall.run (first ++ second) = (hall.run first).run second := by
  induction first generalizing hall with
  | nil => rfl
  | cons move rest inductionHypothesis => exact inductionHypothesis _

/-- The only merge waits for a queue of a round that is over, in a game that still
counts as merging input. -/
structure Stuck (hall : Hall) (parked : ParkedMerge) : Prop where
  merging : hall.room.game.synched = true
  noQueues : hall.room.game.queues = []
  waiting : hall.room.game.waiting = [parked]
  woken : hall.room.game.woken = []
  unread : 0 < parked.merge.remaining
  blocked : ∃ queue, hall.room.game.queueAt? parked.merge.round parked.merge.slot = some queue ∧
    ∀ waited, queue.read parked.merge.reader parked.merge.share waited = .blocked
  told : parked.merge.tally ∈ hall.calls

namespace Stuck

variable {hall : Hall} {parked : ParkedMerge} (stuck : hall.Stuck parked)
include stuck

/-- When its time has run out it is parked anew, and nobody is blamed, as no round
is on. -/
theorem resume {queue : ActionQueue}
    (place : hall.room.game.queueAt? parked.merge.round parked.merge.slot = some queue)
    (blocked : ∀ waited,
      queue.read parked.merge.reader parked.merge.share waited = .blocked)
    {now : Nat} (late : parked.deadline ≤ now) :
    ((hall.room.unpark parked.merge.ticket).resume now parked).1 =
      (hall.room.unpark parked.merge.ticket).park
        { parked.merge with timeouts := parked.merge.timeouts + 1 } (now + queue.timeout) := by
  have place : (hall.room.unpark parked.merge.ticket).game.queueAt? parked.merge.round
    parked.merge.slot = some queue := place
  have blameless : ∀ timeout, ((hall.room.unpark parked.merge.ticket).noteTimeout timeout).1 =
      hall.room.unpark parked.merge.ticket := by
    intro timeout
    rcases (hall.room.unpark parked.merge.ticket).noteTimeout_cases timeout with
      ⟨same, -⟩ | ⟨slot, other, -, otherPlace, -⟩
    · exact congrArg Prod.fst same
    · have none : (hall.room.unpark parked.merge.ticket).game.queues = [] := stuck.noQueues
      rw [none] at otherPlace
      cases otherPlace
  let counted := { parked.merge with timeouts := parked.merge.timeouts + 1 }
  have collected : ((hall.room.unpark parked.merge.ticket).collect now counted
      counted.remaining).1 =
        (hall.room.unpark parked.merge.ticket).park counted (now + queue.timeout) := by
    obtain ⟨more, remaining⟩ := Nat.exists_eq_succ_of_ne_zero (Nat.ne_of_gt stuck.unread)
    have remaining : counted.remaining = more + 1 := remaining
    have merging : (hall.room.unpark parked.merge.ticket).game.synched = true := stuck.merging
    have place : (hall.room.unpark parked.merge.ticket).game.queueAt? counted.round
      counted.slot = some queue := place
    have blocked : queue.read counted.reader counted.share false = .blocked := blocked false
    rw [remaining, Room.collect, merging, if_neg (by decide), place]
    simp only [blocked]
  rw [Room.resume, place]
  simp only [blocked, if_pos late, blameless]
  exact collected

/-- Then it is stuck again, with one time-out more on record. -/
theorem retry :
    ∃ later : ParkedMerge, later.merge.timeouts = parked.merge.timeouts + 1 ∧
      (hall.run [.pass parked.deadline, .retry parked.merge.ticket]).Stuck later := by
  obtain ⟨queue, place, blocked⟩ := stuck.blocked
  let counted := { parked.merge with timeouts := parked.merge.timeouts + 1 }
  let now := hall.now + parked.deadline
  refine ⟨⟨counted, now + queue.timeout⟩, rfl, ?_⟩
  have late : parked.deadline ≤ now := Nat.le_add_left ..
  have found : hall.room.game.inFlight.find? (·.merge.ticket = parked.merge.ticket) =
      some parked := by
    unfold Game.inFlight
    rw [stuck.waiting]
    exact List.find?_cons_of_pos (decide_eq_true rfl)
  have lapses : hall.room.lapses now parked = true :=
    (Room.lapses_of_blocked place (blocked true)).trans (decide_eq_true late)
  have retried : hall.run [.pass parked.deadline, .retry parked.merge.ticket] =
      { hall with
        now := now
        room := (hall.room.unpark parked.merge.ticket).park counted (now + queue.timeout)
        calls := hall.calls.map fun call =>
          if call.ticket = parked.merge.ticket then call.lapse else call } := by
    change (Hall.retry { hall with now := now } parked.merge.ticket) = _
    unfold Hall.retry
    simp only [found, if_pos (Or.inr late : parked ∈ hall.room.game.woken ∨ _), lapses,
      stuck.resume place blocked late, and_true]
    rfl
  rw [retried]
  have unparked : (hall.room.unpark parked.merge.ticket).game.waiting = [] := by
    change hall.room.game.waiting.filter _ = []
    rw [stuck.waiting]
    exact List.filter_cons_of_neg (by simp)
  refine ⟨stuck.merging, stuck.noQueues, ?_, ?_, stuck.unread, ⟨queue, place, blocked⟩, ?_⟩
  · change (hall.room.unpark parked.merge.ticket).game.waiting ++ _ = _
    rw [unparked]
    rfl
  · change hall.room.game.woken.filter _ = []
    rw [stuck.woken]
    rfl
  · exact List.mem_map.mpr ⟨parked.merge.tally, stuck.told, if_pos rfl⟩

/-- And so on. -/
theorem retries (count : Nat) : ∃ (moves : List Move) (later : ParkedMerge),
    later.merge.timeouts = parked.merge.timeouts + count ∧ (hall.run moves).Stuck later := by
  induction count with
  | zero => exact ⟨[], parked, rfl, stuck⟩
  | succ count inductionHypothesis =>
      obtain ⟨moves, middle, met, still⟩ := inductionHypothesis
      obtain ⟨later, more, after⟩ := still.retry
      refine ⟨moves ++ [.pass middle.deadline, .retry middle.merge.ticket], later, ?_, ?_⟩
      · rw [more, met, Nat.add_assoc]
      · rw [run_append]
        exact after

end Stuck

/-- Members that were dropped while the round gathered signal that they are
ready.  A message is sent, and then the only member that plays is dropped. -/
def lateSignal : List Move :=
  [.join 1, .join 2, .join 3, .start 1, .drop 1, .ready 1, .drop 2, .ready 2, .ready 3,
    .input 1 [1], .drop 3]

/-- The message waits for the second player, in a round that is over. -/
theorem stuck_lateSignal :
    (trio.run lateSignal).Stuck ⟨⟨0, 1, 1, 1, 1, 1, 3, [[1]], 0⟩, 1250⟩ where
  merging := by decide +kernel
  noQueues := by decide +kernel
  waiting := by decide +kernel
  woken := by decide +kernel
  unread := by decide
  blocked := by
    refine ⟨⟨2, 2, 1250, 3072, List.replicate 3072 0, 0, [0, 0, 0], true, none⟩,
      by decide +kernel, ?_⟩
    intro waited
    cases waited with
    | false => rfl
    | true => rfl
  told := by decide +kernel

end Hall

end Netplay
