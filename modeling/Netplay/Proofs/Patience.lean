/-
Module: Netplay.Proofs.Patience
Purpose: How many time-outs a message of input may meet: what a game and its
  merges keep while work goes on on them, so that a time-out beyond the limit is
  always paid for by a queue that goes out of synchrony.
Main exports:
  silentPlaces, ActionQueue.Patient, Game.Lasts, Game.Patient, Game.Bears,
  Game.Affords, Game.Waits, Room.Calm, Room.calm_collect, Room.calm_resume,
  Room.calm_addData
-/
import Mathlib.Data.Finset.Card
import Netplay.Proofs.Attendance
import Netplay.Proofs.Hall

namespace Netplay

/-!
A time-out that a merge counts is blamed on the queue it waits for.  From the
limit on, that queue goes out of synchrony, and the merge does not wait for it
again.  So beyond the limit a merge counts at most one time-out for each queue of
its round: its time-outs are paid for by the queues that are out of synchrony.
-/

/-! ## Places out of synchrony -/

/-- The places of the queues that are out of synchrony. -/
def silentPlaces (queues : List ActionQueue) : Finset Nat :=
  (Finset.range queues.length).filter fun slot =>
    queues[slot]?.any fun queue => !queue.synched

theorem mem_silentPlaces {queues : List ActionQueue} {slot : Nat} :
    slot ∈ silentPlaces queues ↔
      ∃ queue, queues[slot]? = some queue ∧ queue.synched = false := by
  unfold silentPlaces
  rw [Finset.mem_filter, Finset.mem_range, Option.any_eq_true]
  constructor
  · rintro ⟨-, queue, place, silent⟩
    exact ⟨queue, place, (Bool.not_eq_true' _).mp silent⟩
  · rintro ⟨queue, place, silent⟩
    exact ⟨(List.getElem?_eq_some_iff.mp place).1, queue, place,
      (Bool.not_eq_true' _).mpr silent⟩

theorem card_silentPlaces_le (queues : List ActionQueue) :
    (silentPlaces queues).card ≤ queues.length :=
  (Finset.card_filter_le _ _).trans (Finset.card_range _).le

/-- A queue that was there is there later. -/
theorem QueuesAge.forth {before after : List ActionQueue} (age : QueuesAge before after)
    {slot : Nat} {queue : ActionQueue} (place : before[slot]? = some queue) :
    ∃ later, after[slot]? = some later ∧ queue.Ages later := by
  have inside := (List.getElem?_eq_some_iff.mp place).1
  rw [← age.length] at inside
  obtain ⟨earlier, earlierPlace, ages⟩ := age.each slot _ (List.getElem?_eq_getElem inside)
  rw [place] at earlierPlace
  cases earlierPlace
  exact ⟨_, List.getElem?_eq_getElem inside, ages⟩

/-- Queues do not come back into synchrony. -/
theorem QueuesAge.silentPlaces {before after : List ActionQueue}
    (age : QueuesAge before after) : silentPlaces before ⊆ silentPlaces after := by
  intro slot member
  obtain ⟨queue, place, silent⟩ := mem_silentPlaces.mp member
  obtain ⟨later, laterPlace, ages⟩ := age.forth place
  refine mem_silentPlaces.mpr ⟨later, laterPlace, ?_⟩
  cases flag : later.synched with
  | false => rfl
  | true =>
      rw [ages.synched flag] at silent
      cases silent

/-! ## Time-outs noted at queues -/

namespace ActionQueue

/-- While the queue is in synchrony, the last time-out noted at it is below the
limit. -/
def Patient (limit : Nat) (queue : ActionQueue) : Prop :=
  queue.synched = true → ∀ timeout, queue.lastTimeout = some timeout → timeout.number < limit

/-- What a queue keeps when it goes out of synchrony, is written or is read. -/
structure Lasting (holds : ActionQueue → Prop) : Prop where
  silence : ∀ queue, holds queue → holds (queue.setSynched false)
  add : ∀ queue data, holds queue → holds (queue.add data)
  read : ∀ {queue later : ActionQueue} {reader : UInt8} {count : Nat} {waited : Bool}
    {bytes : Bytes}, queue.read reader count waited = .actions bytes later → holds queue →
      holds later

theorem lasting_patient (limit : Nat) : Lasting (Patient limit) where
  silence := fun queue _ flag => by
    rw [queue.setSynched_synched] at flag
    cases flag
  add := fun queue data patient => by
    unfold ActionQueue.add
    split
    · exact fun _ _ noted => by cases noted
    · exact patient
  read := fun answered patient => by
    obtain ⟨heads, rfl, -⟩ := read_keeps answered
    exact patient

theorem lasting_blameless : Lasting fun queue => queue.lastTimeout = none where
  silence := fun queue none => (queue.setSynched_lastTimeout false).trans none
  add := fun queue data none => by
    unfold ActionQueue.add
    split
    · rfl
    · exact none
  read := fun answered none => by
    obtain ⟨heads, rfl, -⟩ := read_keeps answered
    exact none

end ActionQueue

namespace Game

/-- What lasts at the queues of the current round lasts until the second game. -/
structure Lasts (game after : Game) : Prop where
  each : ∀ {holds : ActionQueue → Prop}, ActionQueue.Lasting holds →
    (∀ queue ∈ game.queues, holds queue) → ∀ queue ∈ after.queues, holds queue

namespace Lasts

variable {game after last : Game}

theorem trans (one : game.Lasts after) (two : after.Lasts last) : game.Lasts last :=
  ⟨fun lasting holds => two.each lasting (one.each lasting holds)⟩

/-- The queues stay. -/
theorem of_eq (same : after.queues = game.queues) : game.Lasts after :=
  ⟨fun _ holds => same ▸ holds⟩

/-- One queue is replaced. -/
theorem set {slot : Nat} {queue later : ActionQueue}
    (place : game.queues[slot]? = some queue)
    (keeps : ∀ {holds : ActionQueue → Prop}, ActionQueue.Lasting holds → holds queue →
      holds later) :
    game.Lasts { game with queues := game.queues.set slot later } := by
  refine ⟨fun {holds} lasting all other member => ?_⟩
  rcases List.mem_or_eq_of_mem_set member with old | rfl
  · exact all other old
  · exact keeps lasting (all queue (List.mem_of_getElem? place))

end Lasts

theorem lasts_silence (game : Game) (slot : Nat) : game.Lasts (game.silence slot) := by
  unfold silence
  split
  · exact .of_eq rfl
  · rename_i queue place
    split
    · refine Lasts.trans (Lasts.set place ?_) (.of_eq rfl)
      exact fun lasting => lasting.silence queue
    · exact .of_eq rfl

theorem lasts_desynchAll (game : Game) : game.Lasts game.desynchAll := by
  unfold desynchAll
  have folded : ∀ (slots : List Nat) (game : Game), game.Lasts (slots.foldl silence game) := by
    intro slots
    induction slots with
    | nil => exact fun game => .of_eq rfl
    | cons first rest inductionHypothesis =>
        exact fun game => (lasts_silence game first).trans (inductionHypothesis _)
  have unmerged : game.Lasts { game with synched := false } := .of_eq rfl
  exact unmerged.trans (folded _ _)

theorem lasts_desynchIfAlone (game : Game) : game.Lasts game.desynchIfAlone.1 := by
  unfold desynchIfAlone
  split
  · exact lasts_desynchAll game
  · exact .of_eq rfl

theorem lasts_hush (game : Game) (slot : Nat) : game.Lasts (game.hush slot) :=
  (lasts_silence game slot).trans (lasts_desynchIfAlone _)

theorem lasts_setQueueAt {game : Game} {round slot : Nat} {queue later : ActionQueue}
    (place : game.queueAt? round slot = some queue)
    (keeps : ∀ {holds : ActionQueue → Prop}, ActionQueue.Lasting holds → holds queue →
      holds later) :
    game.Lasts (game.setQueueAt round slot later) := by
  unfold setQueueAt queueAt? at *
  split
  · rename_i current
    rw [if_pos current] at place
    exact .set place keeps
  · exact .of_eq rfl

theorem lasts_write (game : Game) (slot : Nat) (data : Bytes) :
    game.Lasts (game.write slot data) := by
  refine ⟨fun {holds} lasting all queue member => ?_⟩
  obtain ⟨other, place⟩ := List.getElem?_of_mem member
  have place : (game.queues.modify slot (·.add data))[other]? = some queue := place
  rw [List.getElem?_modify] at place
  obtain ⟨before, beforePlace, rfl⟩ := Option.map_eq_some_iff.mp place
  have held := all before (List.mem_of_getElem? beforePlace)
  split
  · exact lasting.add before data held
  · exact held

namespace Works

variable {game after : Game} (works : game.Works after)
include works

/-- The limit stays while work goes on. -/
theorem settings : after.settings = game.settings := by
  obtain ⟨_, _, _, _, _, frame⟩ := works.frame
  rw [frame]

theorem status : after.status = game.status := by
  obtain ⟨_, _, _, _, _, frame⟩ := works.frame
  rw [frame]

theorem round : after.round = game.round := by
  obtain ⟨_, _, _, _, _, frame⟩ := works.frame
  rw [frame]

end Works

/-- The queues of the current round stand in order of player numbers, and the
last time-out noted at each one in synchrony is below the limit.  While players
get ready, none is noted. -/
structure Patient (game : Game) : Prop where
  numbered : ∀ (slot : Nat) (queue : ActionQueue), game.queues[slot]? = some queue →
    queue.player.toNat = slot + 1
  noted : ∀ queue ∈ game.queues, queue.Patient game.settings.desynchTimeouts
  blameless : game.status = .synchronizing → ∀ queue ∈ game.queues,
    queue.lastTimeout = none

/-- It stays so while work goes on. -/
theorem Patient.works {game after : Game} (patient : game.Patient) (works : game.Works after)
    (lasts : game.Lasts after) : after.Patient := by
  refine ⟨fun slot later place => ?_, ?_, fun gathering => ?_⟩
  · obtain ⟨queue, before, ages⟩ := works.queues.each slot later place
    rw [ages.player]
    exact patient.numbered slot queue before
  · rw [works.settings]
    exact lasts.each (ActionQueue.lasting_patient _) patient.noted
  · exact lasts.each ActionQueue.lasting_blameless
      (patient.blameless (works.status ▸ gathering))

/-! ## Merges in flight -/

/-- The queues of a merge's round are there, each of them for its reader, and
none of an ended round is in synchrony. -/
structure Bears (game : Game) (merge : Merge) : Prop where
  players : (game.roundQueues merge.round).length = merge.players
  reader : merge.reader ≠ 0 ∧ merge.reader.toNat ≤ merge.players
  readers : ∀ queue ∈ game.roundQueues merge.round, queue.heads.length = merge.players
  numbered : ∀ (slot : Nat) (queue : ActionQueue),
    (game.roundQueues merge.round)[slot]? = some queue → queue.player.toNat = slot + 1
  past : merge.round ≤ game.round
  apart : game.status = .synchronizing → merge.round ≠ game.round
  live : ∀ queue ∈ game.roundQueues merge.round, queue.synched = true →
    game.synched = true ∧ merge.round = game.round ∧ game.queues ≠ []

/-- A merge at work has met few time-outs: fewer than the limit, and one more for
each queue out of synchrony. -/
structure Affords (game : Game) (merge : Merge) : Prop where
  bears : game.Bears merge
  few : merge.timeouts ≤ game.settings.desynchTimeouts - 1 +
    (silentPlaces (game.roundQueues merge.round)).card

/-- A merge that waits can afford one time-out more if the queue it waits for has
gone out of synchrony. -/
structure Waits (game : Game) (merge : Merge) : Prop where
  bears : game.Bears merge
  few : merge.timeouts ≤ game.settings.desynchTimeouts - 1 +
    ((silentPlaces (game.roundQueues merge.round)).erase merge.slot).card

section Works

variable {game after : Game} {merge : Merge}

theorem Bears.works (bears : game.Bears merge) (works : game.Works after) :
    after.Bears merge := by
  have rounds := works.rounds merge.round
  have round := works.round
  refine ⟨rounds.length.trans bears.players, bears.reader, fun later member => ?_,
    fun slot later place => ?_, round ▸ bears.past, fun gathering => ?_,
    fun later member flag => ?_⟩
  · obtain ⟨queue, before, ages⟩ := rounds.back member
    exact (congrArg Seat.readers ages.seat).trans (bears.readers queue before)
  · obtain ⟨queue, before, ages⟩ := rounds.each slot later place
    rw [ages.player]
    exact bears.numbered slot queue before
  · rw [round]
    exact bears.apart (works.status ▸ gathering)
  · obtain ⟨queue, before, ages⟩ := rounds.back member
    obtain ⟨on, current, some⟩ := bears.live queue before (ages.synched flag)
    have still : after.queues ≠ [] := fun none => some (works.queues.eq_nil_iff.mp none)
    refine ⟨?_, current.trans round.symm, still⟩
    cases off : after.synched with
    | true => rfl
    | false =>
        rw [current, ← round, roundQueues_current still] at member
        rw [works.mute on off later member] at flag
        cases flag

theorem Affords.works (affords : game.Affords merge) (works : game.Works after) :
    after.Affords merge where
  bears := affords.bears.works works
  few := by
    have more := Finset.card_le_card (works.rounds merge.round).silentPlaces
    rw [works.settings]
    exact affords.few.trans (Nat.add_le_add_left more _)

theorem Waits.works (waits : game.Waits merge) (works : game.Works after) :
    after.Waits merge where
  bears := waits.bears.works works
  few := by
    have more := Finset.card_le_card
      (Finset.erase_subset_erase merge.slot (works.rounds merge.round).silentPlaces)
    rw [works.settings]
    exact waits.few.trans (Nat.add_le_add_left more _)

/-- A merge of the same round for the same reader has the same needs. -/
theorem Bears.of_same {other : Merge} (bears : game.Bears merge)
    (round : other.round = merge.round) (reader : other.reader = merge.reader)
    (players : other.players = merge.players) : game.Bears other := by
  obtain ⟨queues, hears, readers, numbered, past, apart, live⟩ := bears
  rw [← round] at queues readers numbered past apart live
  rw [← players] at queues readers hears
  rw [← reader] at hears
  exact ⟨queues, hears, readers, numbered, past, apart, live⟩

/-- A merge that has taken one more share is as well off. -/
theorem Affords.take (affords : game.Affords merge) (part : Bytes) :
    game.Affords (merge.take part) :=
  ⟨affords.bears.of_same rfl rfl rfl, affords.few⟩

/-- A merge that waits can go on. -/
theorem Waits.affords (waits : game.Waits merge) : game.Affords merge where
  bears := waits.bears
  few := waits.few.trans
    (Nat.add_le_add_left (Finset.card_le_card (Finset.erase_subset _ _)) _)

/-- A merge may wait for a queue that is in synchrony, or for none. -/
theorem Affords.waits (affords : game.Affords merge)
    (heard : ∀ queue, game.queueAt? merge.round merge.slot = some queue →
      queue.synched = true) : game.Waits merge where
  bears := affords.bears
  few := by
    have others : merge.slot ∉ silentPlaces (game.roundQueues merge.round) := by
      intro silent
      obtain ⟨queue, place, off⟩ := mem_silentPlaces.mp silent
      rw [heard queue ((queueAt?_eq ..).trans place)] at off
      cases off
    rw [Finset.erase_eq_of_notMem others]
    exact affords.few

/-- A merge never meets more time-outs than that. -/
theorem Affords.timeouts_bound (affords : game.Affords merge) :
    merge.timeouts ≤ game.settings.desynchTimeouts + merge.players := by
  have few := affords.few
  have most := card_silentPlaces_le (game.roundQueues merge.round)
  rw [affords.bears.players] at most
  omega

/-- The queue that the merge reads next is read by its reader. -/
theorem Bears.serves (bears : game.Bears merge) {queue : ActionQueue}
    (place : game.queueAt? merge.round merge.slot = some queue) :
    queue.Serves merge.reader := by
  rw [queueAt?_eq] at place
  refine ⟨bears.reader.1, ?_⟩
  rw [bears.readers queue (List.mem_of_getElem? place)]
  exact bears.reader.2

end Works

end Game

/-! ## Work on merges -/

/-- The game with a time-out noted at the queue in a place. -/
def Game.note (game : Game) (slot : Nat) (queue : ActionQueue) (timeout : ReadTimeout) :
    Game :=
  { game with queues := game.queues.set slot (queue.noteTimeout timeout) }

/-- Noting a time-out and putting the queue out of synchrony leaves no time-out on
record at a queue in synchrony. -/
theorem Game.silence_note {game : Game} {slot : Nat} {queue : ActionQueue}
    (place : game.queues[slot]? = some queue) (on : queue.synched = true)
    (timeout : ReadTimeout) :
    (game.note slot queue timeout).silence slot =
      { game with
        queues := game.queues.set slot
          ((queue.noteTimeout timeout).setSynched false) }.wake game.round slot := by
  have inside := (List.getElem?_eq_some_iff.mp place).1
  have noted : (game.note slot queue timeout).queues[slot]? =
      some (queue.noteTimeout timeout) := List.getElem?_set_self inside
  have flag : (queue.noteTimeout timeout).synched = true := on
  unfold Game.silence
  rw [noted]
  simp only [flag, if_true]
  unfold Game.note
  simp only [List.set_set]

namespace Room

/-- Every live queue has a member that plays, every queue in synchrony is spared
its last time-out, and every merge that waits has met few. -/
structure Calm (room : Room) : Prop where
  attended : room.game.Attended room.people
  patient : room.game.Patient
  waits : ∀ parked ∈ room.game.inFlight, room.game.Waits parked.merge

variable {room after : Room} {merge : Merge}

/-- Work that parks no merge keeps the room calm. -/
theorem Calm.works (calm : room.Calm) (works : room.Works after)
    (patient : after.game.Patient)
    (flight : ∀ parked ∈ after.game.inFlight, parked ∈ room.game.inFlight) :
    after.Calm where
  attended := by
    rw [works.people]
    exact attended_works calm.attended works.game
  patient := patient
  waits := fun parked member => (calm.waits parked (flight parked member)).works works.game

/-- So does work at which every property of queues lasts. -/
theorem Calm.lasts (calm : room.Calm) {game : Game} (works : room.game.Works game)
    (lasts : room.game.Lasts game)
    (flight : ∀ parked ∈ game.inFlight, parked ∈ room.game.inFlight) :
    Calm { room with game := game } :=
  calm.works (.of_game works) (calm.patient.works works lasts) flight

theorem mem_inFlight_unpark {ticket : Nat} {parked : ParkedMerge} :
    parked ∈ (room.unpark ticket).game.inFlight ↔
      parked ∈ room.game.inFlight ∧ parked.merge.ticket ≠ ticket := by
  unfold unpark Game.inFlight
  rw [← List.filter_append, List.mem_filter, decide_eq_true_iff]

/-- A merge is taken off the lists. -/
theorem calm_unpark (calm : room.Calm) (ticket : Nat) : (room.unpark ticket).Calm :=
  calm.lasts (.lists ..) (.of_eq rfl) fun _ member =>
    (mem_inFlight_unpark.mp member).1

theorem mem_inFlight_park {deadline : Nat} {parked : ParkedMerge} :
    parked ∈ (room.park merge deadline).game.inFlight ↔
      parked ∈ room.game.inFlight ∨ parked = ⟨merge, deadline⟩ := by
  unfold park Game.inFlight
  simp only [List.mem_append, List.mem_singleton]
  exact or_right_comm

/-- A merge is parked. -/
theorem calm_park (calm : room.Calm) (waits : room.game.Waits merge) (deadline : Nat) :
    (room.park merge deadline).Calm := by
  have works : room.game.Works (room.park merge deadline).game := .lists ..
  refine ⟨attended_works calm.attended works, calm.patient.works works (.of_eq rfl),
    fun parked member => ?_⟩
  rcases mem_inFlight_park.mp member with old | rfl
  · exact (calm.waits parked old).works works
  · exact waits.works works

/-- A queue goes out of synchrony. -/
theorem calm_hush (calm : room.Calm) (slot : Nat) :
    Calm { room with game := room.game.hush slot } :=
  calm.lasts (.of_dims (room.game.dims_hush slot)) (Game.lasts_hush room.game slot)
    fun _ => (room.game.dims_hush slot).inFlight.mem_iff.mp

/-- A queue is read. -/
theorem calm_read {round slot count : Nat} {reader : UInt8} {waited : Bool} {bytes : Bytes}
    {queue later : ActionQueue} (calm : room.Calm)
    (place : room.game.queueAt? round slot = some queue)
    (answered : queue.read reader count waited = .actions bytes later) :
    Calm { room with game := room.game.setQueueAt round slot later } := by
  refine calm.lasts (.setQueueAt place (.read answered))
    (Game.lasts_setQueueAt place fun lasting => lasting.read answered) fun parked member => ?_
  obtain ⟨queues, ended, frame, -⟩ := room.game.setQueueAt_frame round slot later
  rw [frame] at member
  exact member

/-- What is in flight was so before, or is the merge with the given tally. -/
def Parks (room after : Room) (tally : TimeoutTally) : Prop :=
  ∀ parked ∈ after.game.inFlight, parked ∈ room.game.inFlight ∨ parked.merge.tally = tally

theorem Parks.park (room : Room) (merge : Merge) (deadline : Nat) :
    room.Parks (room.park merge deadline) merge.tally := by
  intro parked member
  rcases mem_inFlight_park.mp member with old | rfl
  · exact .inl old
  · exact .inr rfl

/-- What was in flight between was so before. -/
theorem Parks.of_flight {before : Room} {tally : TimeoutTally}
    (parks : before.Parks after tally)
    (flight : ∀ parked ∈ before.game.inFlight, parked ∈ room.game.inFlight) :
    room.Parks after tally :=
  fun parked member => (parks parked member).imp_left (flight parked)

/-- Reading a queue moves no merge. -/
theorem mem_inFlight_setQueueAt {round slot : Nat} {queue : ActionQueue}
    {parked : ParkedMerge} (member : parked ∈ (room.game.setQueueAt round slot queue).inFlight) :
    parked ∈ room.game.inFlight := by
  obtain ⟨queues, ended, frame, -⟩ := room.game.setQueueAt_frame round slot queue
  rwa [frame] at member

/-- While it collects shares a merge keeps its tally. -/
theorem parks_collect (room : Room) (now : Nat) (merge : Merge) (remaining : Nat) :
    room.Parks (room.collect now merge remaining).1 merge.tally := by
  induction remaining generalizing room merge with
  | zero =>
      unfold collect
      split
      · exact fun _ => .inl
      · exact fun _ => .inl
  | succ remaining inductionHypothesis =>
      unfold collect
      split
      · exact fun _ => .inl
      · split
        · exact Parks.park room merge now
        · split
          · rename_i part later answered
            apply Parks.of_flight (inductionHypothesis _ (merge.take part))
            exact fun parked => mem_inFlight_setQueueAt
          · exact Parks.park room merge _
          · exact Parks.park room merge _

/-- A merge that goes on after a time-out has met one more. -/
theorem parks_lapse (room : Room) (timeout : ReadTimeout) (now : Nat) (merge : Merge)
    (remaining : Nat) :
    room.Parks
      ((room.noteTimeout timeout).1.collect now { merge with timeouts := merge.timeouts + 1 }
        remaining).1 merge.tally.lapse := by
  apply Parks.of_flight (parks_collect _ now { merge with timeouts := merge.timeouts + 1 } _)
  exact fun parked => (room.noteTimeout_dims timeout).1.inFlight.mem_iff.mp

/-- A merge that is retried has met one time-out more exactly if the retry counts
one. -/
theorem parks_resume (room : Room) (now : Nat) (parked : ParkedMerge) :
    room.Parks (room.resume now parked).1
      (if room.lapses now parked then parked.merge.tally.lapse else parked.merge.tally) := by
  unfold resume
  simp only
  split
  · exact fun _ => .inl
  · rename_i queue place
    split
    · rename_i part later answered
      rw [lapses_of_answered place answered]
      apply Parks.of_flight (parks_collect _ now (parked.merge.take part) _)
      exact fun other => mem_inFlight_setQueueAt
    · rename_i failed
      rw [lapses_of_failed place failed]
      exact room.parks_lapse _ now parked.merge _
    · rename_i blocked
      rw [lapses_of_blocked place blocked]
      split
      · rename_i late
        rw [if_pos (decide_eq_true late)]
        exact room.parks_lapse _ now parked.merge _
      · rename_i early
        rw [if_neg (by simpa using early)]
        exact Parks.park room parked.merge _

/-- A merge that begins has met no time-outs. -/
theorem parks_addData (room : Room) (now ticket : Nat) (id : UserId) (data : Bytes) :
    room.Parks (room.addData now ticket id data).1 ⟨ticket, room.game.queues.length, 0⟩ := by
  unfold addData
  simp only
  split
  · exact fun _ => .inl
  · split
    · exact fun _ => .inl
    · rename_i slot seat
      split
      · exact fun _ => .inl
      · split
        · exact fun _ => .inl
        · apply Parks.of_flight (parks_collect _ now _ _)
          split
          · exact fun parked =>
              ((room.game.write slot data).dims_wake room.game.round slot).inFlight.mem_iff.mp
          · exact fun parked member => member

/-- Collecting shares keeps the room calm. -/
theorem calm_collect (calm : room.Calm) (affords : room.game.Affords merge)
    (now remaining : Nat) : (room.collect now merge remaining).1.Calm := by
  induction remaining generalizing room merge with
  | zero =>
      unfold collect
      split
      · exact calm
      · exact calm
  | succ remaining inductionHypothesis =>
      unfold collect
      split
      · exact calm
      · split
        · rename_i nowhere
          have waits := affords.waits fun queue place => by
            rw [nowhere] at place
            cases place
          exact calm_park calm waits now
        · rename_i queue place
          split
          · rename_i part later answered
            have taken := (affords.works (.setQueueAt place (.read answered))).take part
            exact inductionHypothesis (calm_read calm place answered) taken
          · rename_i failed
            rcases ActionQueue.read_eq_failed_iff.mp failed with absent | ⟨-, waited⟩
            · exact absurd (affords.bears.serves place) absent
            · cases waited
          · rename_i blocked
            have waits := affords.waits fun other otherPlace => by
              rw [place] at otherPlace
              cases otherPlace
              exact (ActionQueue.read_eq_blocked_iff.mp blocked).2.1
            exact calm_park calm waits _

/-- A time-out is noted at a queue in synchrony that has not just met it, and everybody
is told who lags; from the limit on the queue goes out of synchrony, and everybody is
told that. -/
theorem noteTimeout_cases (room : Room) (timeout : ReadTimeout) :
    room.noteTimeout timeout = (room, []) ∧
        (room.game.synched = false ∨ timeout.player = 0 ∨
          ∀ queue, room.game.queues[timeout.player.toNat - 1]? = some queue →
            queue.synched = false ∨ queue.lastTimeout = some timeout) ∨
      ∃ slot queue, room.game.synched = true ∧ room.game.queues[slot]? = some queue ∧
        queue.synched = true ∧ slot = timeout.player.toNat - 1 ∧
        (timeout.number < room.game.settings.desynchTimeouts ∧
            room.noteTimeout timeout =
              ({ room with game := room.game.note slot queue timeout },
                (room.game.note slot queue timeout).tellAll
                  (.timeout (room.people.person (room.game.queueUsers.getD slot 0))
                    timeout.number)) ∨
          room.game.settings.desynchTimeouts ≤ timeout.number ∧
            room.noteTimeout timeout =
              ({ room with game := (room.game.note slot queue timeout).hush slot },
                ((room.game.note slot queue timeout).silence slot).tellAll
                    (.playerDesynch (room.people.person (room.game.queueUsers.getD slot 0))
                      ((room.people.person (room.game.queueUsers.getD slot 0)).name ++
                        " desynched: lagged")) ++
                  ((room.game.note slot queue timeout).silence slot).desynchIfAlone.2)) := by
  unfold noteTimeout
  simp only
  split
  · rename_i idle
    rcases idle with off | zero
    · exact .inl ⟨rfl, .inl ((Bool.not_eq_true' _).mp off)⟩
    · exact .inl ⟨rfl, .inr (.inl zero)⟩
  · rename_i merging
    obtain ⟨on, -⟩ := not_or.mp merging
    rw [Bool.not_eq_true', Bool.not_eq_false] at on
    split
    · rename_i none
      refine .inl ⟨rfl, .inr (.inr fun queue place => ?_)⟩
      rw [none] at place
      cases place
    · rename_i queue place
      split
      · rename_i known
        refine .inl ⟨rfl, .inr (.inr fun other otherPlace => ?_)⟩
        rw [place] at otherPlace
        cases otherPlace
        exact known.imp_left (Bool.not_eq_true' _).mp
      · rename_i new
        obtain ⟨flag, -⟩ := not_or.mp new
        rw [Bool.not_eq_true', Bool.not_eq_false] at flag
        refine .inr ⟨_, queue, on, place, flag, rfl, ?_⟩
        split
        · rename_i below
          exact .inl ⟨below, rfl⟩
        · rename_i beyond
          exact .inr ⟨Nat.le_of_not_lt beyond, rfl⟩

/-- Blaming a time-out on a player keeps the room calm. -/
theorem calm_noteTimeout (calm : room.Calm) (timeout : ReadTimeout) :
    (room.noteTimeout timeout).1.Calm := by
  obtain ⟨dims, people⟩ := room.noteTimeout_dims timeout
  rcases room.noteTimeout_cases timeout with
    ⟨same, -⟩ | ⟨slot, queue, on, place, flag, -, noted⟩
  · rw [same]
    exact calm
  · have works : room.Works (room.noteTimeout timeout).1 := ⟨.of_dims dims, people⟩
    have playing := calm.attended.played on
    refine calm.works works ⟨fun other later laterPlace => ?_, ?_, fun gathering => ?_⟩
      fun parked => dims.inFlight.mem_iff.mp
    · obtain ⟨before, beforePlace, ages⟩ := works.game.queues.each other later laterPlace
      rw [ages.player]
      exact calm.patient.numbered other before beforePlace
    · rw [works.game.settings]
      have replaced : ∀ later : ActionQueue,
          later.Patient room.game.settings.desynchTimeouts →
            ∀ other ∈ room.game.queues.set slot later,
              other.Patient room.game.settings.desynchTimeouts := by
        intro later patient other member
        rcases List.mem_or_eq_of_mem_set member with old | rfl
        · exact calm.patient.noted other old
        · exact patient
      rcases noted with ⟨below, state⟩ | ⟨-, state⟩
      · rw [state]
        refine replaced _ fun _ last latest => ?_
        cases latest
        exact below
      · rw [state]
        unfold Game.hush
        rw [Game.silence_note place flag]
        refine (Game.lasts_desynchIfAlone _).each (ActionQueue.lasting_patient _) ?_
        refine replaced _ fun still => ?_
        rw [ActionQueue.setSynched_synched] at still
        cases still
    · rw [works.game.status, playing] at gathering
      cases gathering

/-- From the limit on, a time-out puts the queue it is blamed on out of
synchrony. -/
theorem silent_noteTimeout {slot : Nat} {queue : ActionQueue} {timeout : ReadTimeout}
    (calm : room.Calm) (on : room.game.synched = true)
    (place : room.game.queues[slot]? = some queue) (flag : queue.synched = true)
    (blamed : timeout.player = queue.player)
    (beyond : room.game.settings.desynchTimeouts ≤ timeout.number) :
    slot ∈ silentPlaces (room.noteTimeout timeout).1.game.queues := by
  have number := calm.patient.numbered slot queue place
  have player : timeout.player.toNat - 1 = slot := by
    rw [blamed, number, Nat.add_sub_cancel]
  rcases room.noteTimeout_cases timeout with
    ⟨-, hindered⟩ | ⟨other, _, -, -, -, isSlot, noted⟩
  · -- Nothing keeps a time-out beyond the limit from being noted.
    exfalso
    rcases hindered with off | zero | known
    · rw [on] at off
      cases off
    · rw [← blamed, zero] at number
      cases number
    · rcases known queue (player.symm ▸ place) with silent | latest
      · rw [flag] at silent
        cases silent
      · have early := calm.patient.noted queue (List.mem_of_getElem? place) flag _ latest
        exact absurd early (Nat.not_lt_of_le beyond)
  · obtain rfl : other = slot := isSlot.trans player
    rcases noted with ⟨early, -⟩ | ⟨-, state⟩
    · exact absurd early (Nat.not_lt_of_le beyond)
    · obtain ⟨dims, -⟩ := room.noteTimeout_dims timeout
      obtain ⟨later, laterPlace, -⟩ := (QueuesAge.of_fade dims.queues).forth place
      refine mem_silentPlaces.mpr ⟨later, laterPlace, ?_⟩
      rw [state] at laterPlace
      exact Game.silent_hush laterPlace

/-- A merge whose time runs out has met one time-out more, and can afford it. -/
theorem affords_lapse {queue : ActionQueue} (calm : room.Calm)
    (waits : room.game.Waits merge)
    (place : room.game.queueAt? merge.round merge.slot = some queue) :
    (room.noteTimeout ⟨queue.player, queue.user, merge.timeouts + 1⟩).1.game.Affords
      { merge with timeouts := merge.timeouts + 1 } := by
  generalize told : ReadTimeout.mk queue.player queue.user (merge.timeouts + 1) = timeout
  have number : timeout.number = merge.timeouts + 1 := by rw [← told]
  have blamed : timeout.player = queue.player := by rw [← told]
  have works : room.game.Works (room.noteTimeout timeout).1.game :=
    .of_dims (room.noteTimeout_dims timeout).1
  obtain ⟨bears, few⟩ := waits.works works
  refine ⟨bears.of_same rfl rfl rfl, ?_⟩
  -- A queue out of synchrony pays for the time-out.
  have pays : merge.slot ∈ silentPlaces
        ((room.noteTimeout timeout).1.game.roundQueues merge.round) →
      merge.timeouts + 1 ≤ (room.noteTimeout timeout).1.game.settings.desynchTimeouts - 1 +
        (silentPlaces ((room.noteTimeout timeout).1.game.roundQueues merge.round)).card := by
    intro silent
    have one := Finset.card_erase_add_one silent
    omega
  rw [Game.queueAt?_eq] at place
  cases flag : queue.synched with
  | false =>
      apply pays
      apply (works.rounds merge.round).silentPlaces
      exact mem_silentPlaces.mpr ⟨queue, place, flag⟩
  | true =>
      obtain ⟨on, current, some⟩ :=
        waits.bears.live queue (List.mem_of_getElem? place) flag
      rw [current, Game.roundQueues_current some] at place
      by_cases below : merge.timeouts + 1 < room.game.settings.desynchTimeouts
      · rw [works.settings]
        exact Nat.le_trans (Nat.le_sub_one_of_lt below) (Nat.le_add_right ..)
      · apply pays
        have still : (room.noteTimeout timeout).1.game.queues ≠ [] :=
          fun none => some (works.queues.eq_nil_iff.mp none)
        rw [current, ← works.round, Game.roundQueues_current still]
        exact silent_noteTimeout calm on place flag blamed
          (number ▸ Nat.le_of_not_lt below)

/-- Going on after a time-out keeps the room calm, and the merge can afford it. -/
theorem calm_lapse {queue : ActionQueue} (calm : room.Calm) (waits : room.game.Waits merge)
    (place : room.game.queueAt? merge.round merge.slot = some queue) (now remaining : Nat) :
    let noted := (room.noteTimeout ⟨queue.player, queue.user, merge.timeouts + 1⟩).1
    let counted := { merge with timeouts := merge.timeouts + 1 }
    (noted.collect now counted remaining).1.Calm ∧
      merge.timeouts + 1 ≤ room.game.settings.desynchTimeouts + merge.players := by
  intro noted counted
  have affords : noted.game.Affords counted := affords_lapse calm waits place
  obtain ⟨dims, -⟩ :=
    room.noteTimeout_dims ⟨queue.player, queue.user, merge.timeouts + 1⟩
  refine ⟨calm_collect (calm_noteTimeout calm _) affords now remaining, ?_⟩
  have works : room.game.Works noted.game := .of_dims dims
  have few := affords.timeouts_bound
  rw [works.settings] at few
  exact few

/-- Retrying a merge keeps the room calm, and a time-out that it counts is one that the
merge can afford. -/
theorem calm_resume {parked : ParkedMerge} (calm : room.Calm)
    (waits : room.game.Waits parked.merge) (now : Nat) :
    (room.resume now parked).1.Calm ∧
      (room.lapses now parked → parked.merge.timeouts + 1 ≤
        room.game.settings.desynchTimeouts + parked.merge.players) := by
  unfold resume
  simp only
  split
  · rename_i nowhere
    refine ⟨calm, fun counts => ?_⟩
    rw [lapses, nowhere] at counts
    cases counts
  · rename_i queue place
    obtain ⟨lapsed, few⟩ := calm_lapse calm waits place now
      { parked.merge with timeouts := parked.merge.timeouts + 1 }.remaining
    split
    · rename_i part later answered
      have taken := (waits.affords.works (.setQueueAt place (.read answered))).take part
      refine ⟨calm_collect (calm_read calm place answered) taken now _, fun counts => ?_⟩
      rw [lapses_of_answered place answered] at counts
      cases counts
    · exact ⟨lapsed, fun _ => few⟩
    · split
      · exact ⟨lapsed, fun _ => few⟩
      · exact ⟨calm_park calm waits _, fun _ => few⟩

/-- A merge that begins in the current round has all it needs. -/
theorem affords_begin {user : User} {slot : Nat} (calm : room.Calm)
    (on : room.game.synched = true) (seat : room.game.slotFor? user = some slot)
    (round : merge.round = room.game.round) (reader : merge.reader = user.player)
    (players : merge.players = room.game.queues.length) (none : merge.timeouts = 0) :
    room.game.Affords merge := by
  have some := Game.queues_ne_nil_of_slotFor? seat
  have queues : room.game.roundQueues merge.round = room.game.queues := by
    rw [round, Game.roundQueues_current some]
  unfold Game.slotFor? at seat
  split at seat
  · cases seat
  · rename_i inside
    obtain ⟨positive, few⟩ := not_or.mp inside
    refine ⟨⟨?_, ⟨reader ▸ positive, ?_⟩, fun queue member => ?_, ?_, Nat.le_of_eq round,
      fun gathering => ?_, fun _ _ _ => ⟨on, round, some⟩⟩, none ▸ Nat.zero_le _⟩
    · rw [queues, players]
    · rw [reader, players]
      exact Nat.le_of_not_lt few
    · rw [queues] at member
      rw [players, ← Game.length_seats]
      exact (calm.attended.seated.desk queue.seat (List.mem_map.mpr ⟨queue, member, rfl⟩)).1
    · rw [queues]
      exact calm.patient.numbered
    · exact absurd (gathering.symm.trans (calm.attended.played on)) (by decide)

/-- Taking in a message of input keeps the room calm. -/
theorem calm_addData (calm : room.Calm) (now ticket : Nat) (id : UserId) (data : Bytes) :
    (room.addData now ticket id data).1.Calm := by
  unfold addData
  simp only
  split
  · exact calm
  · rename_i merging
    rw [Bool.not_eq_true', Bool.not_eq_false] at merging
    split
    · exact calm
    · rename_i slot seat
      split
      · exact calm
      · split
        · exact calm
        · -- Whether the queue takes the message in or not, the merge begins.
          have begins : ∀ {game : Game} {merge : Merge}, room.game.Works game →
              room.game.Lasts game → game.inFlight.Perm room.game.inFlight →
              merge.tally = ⟨ticket, room.game.queues.length, 0⟩ →
              merge.round = room.game.round → merge.reader = (room.people.person id).player →
              (Room.collect { room with game := game } now merge merge.remaining).1.Calm := by
            intro game merge works lasts flight tally round reader
            have affords := affords_begin calm merging seat round reader
              (congrArg TimeoutTally.queues tally) (congrArg TimeoutTally.timeouts tally)
            exact calm_collect (calm.lasts works lasts fun _ => flight.mem_iff.mp)
              (affords.works works) now merge.remaining
          split
          · have written : room.game.Works (room.game.write slot data) :=
              .write (Game.queues_ne_nil_of_slotFor? seat) slot data
            have woken := (room.game.write slot data).dims_wake room.game.round slot
            exact begins (written.trans (.of_dims woken))
              ((Game.lasts_write room.game slot data).trans (.of_eq rfl)) woken.inFlight rfl
              rfl rfl
          · exact begins (.refl _) (.of_eq rfl) (.refl _) rfl rfl rfl

end Room

end Netplay
