/-
Module: Netplay.Proofs.LagPolicy
Purpose: Who is put out of synchrony for lagging, and after how many time-outs: the
  time-outs that a message of input meets, with the queues it met them at, and the
  notices that come of them.
Main exports:
  Lapse, Hall.lapse?, Hall.lapses, Hall.met, Hall.told, Letter.Blames, Game.Placed,
  Room.blames_noteTimeout, Hall.Counted, Hall.lapse_of_blames, Hall.lagged_after
-/
import Netplay.Proofs.Gathering
import Netplay.Proofs.Notices

namespace Netplay

/-- A time-out that a message of input has met, and the round and the place of the
queue that it waited for. -/
structure Lapse where
  ticket : Nat
  round : Nat
  slot : Nat
deriving Repr, DecidableEq

/-- The time-out was met at the queue in a place of a round. -/
def Lapse.At (lapse : Lapse) (round slot : Nat) : Prop :=
  lapse.round = round ∧ lapse.slot = slot

instance (lapse : Lapse) (round slot : Nat) : Decidable (lapse.At round slot) :=
  inferInstanceAs (Decidable (_ ∧ _))

/-- The notice that a user is put out of synchrony because it lagged. -/
def Letter.Blames (letter : Letter) (user : User) : Prop :=
  ∃ game, letter.event = .game game (.playerDesynch user (user.name ++ " desynched: lagged"))

namespace Hall

/-- The merge that a move retries. -/
def retried? (hall : Hall) : Move → Option ParkedMerge
  | .retry ticket =>
      (hall.room.game.inFlight.find? (·.merge.ticket = ticket)).filter fun parked =>
        parked ∈ hall.room.game.woken ∨ parked.deadline ≤ hall.now
  | _ => none

/-- The time-out that a move counts. -/
def lapse? (hall : Hall) (move : Move) : Option Lapse :=
  ((hall.retried? move).filter fun parked => hall.room.lapses hall.now parked).map
    fun parked => ⟨parked.merge.ticket, parked.merge.round, parked.merge.slot⟩

/-- The time-outs that a row of moves counts, in order. -/
def lapses (hall : Hall) : List Move → List Lapse
  | [] => []
  | move :: rest => (hall.lapse? move).toList ++ (hall.step move).lapses rest

/-- The time-outs that the message of a ticket meets in a row of moves. -/
def met (hall : Hall) (moves : List Move) (ticket : Nat) : List Lapse :=
  (hall.lapses moves).filter (·.ticket = ticket)

/-- The letters that a move has sent. -/
def told (hall : Hall) : Move → List Letter
  | .join user =>
      if (hall.room.people.find? user).isSome then (hall.room.join user).letters else []
  | .start user => (hall.room.start user).letters
  | .ready user => (hall.room.ready user).letters
  | .drop user => (hall.room.drop user).letters
  | .quit user => (hall.room.quit user).letters
  | .kick user target => (hall.room.kick user target).letters
  | .close user => (hall.room.close user).letters
  | .gap user => (hall.room.droppedPacket user).2
  | .input user data => (hall.room.addData hall.now hall.nextTicket user data).2.1
  | .retry ticket =>
      match hall.retried? (.retry ticket) with
      | none => []
      | some parked => ((hall.room.unpark ticket).resume hall.now parked).2.1
  | .pass _ => []

theorem retry_eq (hall : Hall) (ticket : Nat) :
    hall.retry ticket =
      match hall.retried? (.retry ticket) with
      | none => hall
      | some parked =>
          { hall with
            room := ((hall.room.unpark ticket).resume hall.now parked).1
            calls := hall.calls.map fun call =>
              if call.ticket = ticket ∧ hall.room.lapses hall.now parked then call.lapse
              else call } := by
  unfold retry retried?
  cases found : hall.room.game.inFlight.find? (·.merge.ticket = ticket) with
  | none => simp [found]
  | some parked =>
      by_cases due : parked ∈ hall.room.game.woken ∨ parked.deadline ≤ hall.now
      · simp [Option.filter, found, due]
      · simp [Option.filter, found, due]

/-- A merge that is retried was in flight under the ticket. -/
theorem retried?_some {hall : Hall} {move : Move} {parked : ParkedMerge}
    (retried : hall.retried? move = some parked) :
    move = .retry parked.merge.ticket ∧ parked ∈ hall.room.game.inFlight := by
  unfold retried? at retried
  split at retried
  · obtain ⟨found, -⟩ := Option.filter_eq_some_iff.mp retried
    have ticket := List.find?_some found
    exact ⟨by rw [of_decide_eq_true ticket], List.mem_of_find?_eq_some found⟩
  · cases retried

theorem lapse?_of_retried {hall : Hall} {move : Move} {parked : ParkedMerge}
    (retried : hall.retried? move = some parked) :
    hall.lapse? move =
      if hall.room.lapses hall.now parked then
        some ⟨parked.merge.ticket, parked.merge.round, parked.merge.slot⟩
      else none := by
  unfold lapse?
  rw [retried]
  cases counts : hall.room.lapses hall.now parked with
  | false => simp [Option.filter, counts]
  | true => simp [Option.filter, counts]

end Hall

/-! ## Players and their places -/

/-- The queues of a round stand in order of player numbers, each with its user. -/
structure Game.Placed (game : Game) : Prop where
  few : game.members.length ≤ game.settings.maxPlayers.toNat
  users : game.queues.map (·.user) = game.queueUsers
  numbered : ∀ round slot queue, (game.roundQueues round)[slot]? = some queue →
    queue.player.toNat = slot + 1

namespace Game.Placed

variable {game after : Game}

theorem works (placed : game.Placed) (works : game.Works after) : after.Placed := by
  have users : after.queues.map (·.user) = game.queues.map (·.user) := by
    have seats := congrArg (List.map Seat.user) works.queues.seats
    simpa [List.map_map, Function.comp_def, ActionQueue.seat] using seats
  have rounds := works.rounds
  obtain ⟨_, _, _, _, _, rfl⟩ := works.frame
  refine ⟨placed.few, users.trans placed.users, fun round slot later place => ?_⟩
  obtain ⟨queue, before, ages⟩ := (rounds round).each slot later place
  rw [ages.player]
  exact placed.numbered round slot queue before

/-- Nothing that the places depend on changes. -/
theorem of_same (placed : game.Placed)
    (few : after.members.length ≤ after.settings.maxPlayers.toNat)
    (users : after.queueUsers = game.queueUsers) (queues : after.queues = game.queues)
    (round : after.round = game.round) (ended : after.ended = game.ended) : after.Placed := by
  refine ⟨few, by rw [queues, users, placed.users], ?_⟩
  have same : ∀ number, after.roundQueues number = game.roundQueues number := by
    simp [roundQueues, endedQueues, queues, round, ended]
  simpa only [same] using placed.numbered

theorem endRound (placed : game.Placed) : game.endRound.Placed := by
  have keeps := Game.Keeps.endRound game
  refine ⟨by rw [keeps.members, keeps.settings]; exact placed.few, ?_, ?_⟩
  · have users := placed.users
    unfold Game.endRound
    split
    · exact users
    · rfl
  · intro round slot queue place
    have kept : game.endRound.roundQueues round ≠ [] := by
      rintro none
      simp [none] at place
    rw [roundQueues_endRound_eq kept] at place
    exact placed.numbered round slot queue place

/-- A round that starts gives every member a place. -/
theorem commence (placed : game.Placed) (none : game.queues = []) (actions : Nat) :
    (game.commence actions).Placed := by
  refine ⟨placed.few, ?_, fun round slot queue place => ?_⟩
  · exact game.users_startQueues
  · by_cases now : round = game.round + 1 ∧ game.startQueues ≠ []
    · have queues : (game.commence actions).roundQueues round = game.startQueues := if_pos now
      rw [queues] at place
      exact player_startQueues placed.few place
    · have before : (game.commence actions).roundQueues round = game.roundQueues round :=
        (if_neg now).trans (if_neg fun current => current.2 none).symm
      rw [before] at place
      exact placed.numbered round slot queue place

/-- A queue comes into synchrony. -/
theorem marked {room : Room} (placed : room.game.Placed) (slot : Nat) (status : GameStatus)
    (synched : Bool) :
    Game.Placed { room.game with
      queues := room.marked slot, status := status, synched := synched } := by
  refine ⟨placed.few, ?_, fun round place queue found => ?_⟩
  · have seats := congrArg (List.map Seat.user)
      (fields_modify (·.seat_setSynched true) room.game.queues slot)
    simp only [List.map_map, Function.comp_def, ActionQueue.seat] at seats
    exact seats.trans placed.users
  · have still : room.marked slot ≠ [] ↔ room.game.queues ≠ [] := by
      simp [Room.marked, ← List.length_pos_iff]
    unfold roundQueues at found
    split at found
    · rename_i current
      obtain ⟨before, beforePlace, same⟩ := room.marked_place found
      have earlier : (room.game.roundQueues round)[place]? = some before := by
        rw [current.1, roundQueues_current (still.mp current.2)]
        exact beforePlace
      have number := placed.numbered round place before earlier
      rcases same with rfl | rfl
      · exact number
      · rwa [before.setSynched_player true]
    · rename_i past
      apply placed.numbered round place
      rw [roundQueues, if_neg fun current => past ⟨current.1, still.mpr current.2⟩]
      exact found

end Game.Placed

namespace Room

variable {room after : Room}

theorem placed_bench (placed : room.game.Placed) (id : UserId) (slot : Nat) :
    (room.bench id slot).game.Placed := by
  have hushed := placed.works (.of_dims (room.game.dims_hush slot))
  unfold bench
  split
  · exact hushed
  · have ended := hushed.endRound
    exact ended.of_same ended.few rfl rfl rfl rfl

theorem placed_without (placed : room.game.Placed) (id : UserId) :
    (room.without id).game.Placed := by
  refine placed.of_same ?_ rfl rfl rfl rfl
  exact Nat.le_trans (List.length_filter_le ..) placed.few

/-- Whatever users do, the queues stand in order of player numbers. -/
theorem Does.placed {move : Move} (does : room.Does move after) (placed : room.game.Placed) :
    after.game.Placed := by
  cases does with
  | rest => exact placed
  | join new waiting space known =>
      refine placed.of_same ?_ rfl rfl rfl rfl
      exact Nat.le_trans (Nat.le_of_eq (List.length_append ..)) space
  | start waiting someone =>
      apply placed.endRound.commence
      obtain ⟨_, _, frame⟩ := room.game.endRound_frame
      rw [frame]
  | allReady member gathering seat all => exact placed.marked _ _ _
  | ready member gathering seat missing => exact placed.marked _ room.game.status room.game.synched
  | drop member seat => exact placed_bench placed _ _
  | quit member =>
      rcases room.left_cases _ with stays | ⟨slot, -, leaves⟩
      · rw [stays]
        exact placed_without placed _
      · rw [leaves]
        exact placed_without (placed_bench placed _ _) _
  | kick kicked => exact placed.of_same placed.few rfl rfl rfl rfl
  | @close silent dims mute off =>
      have closed : Game.Placed { silent with members := [] } :=
        (placed.works (.of_dims dims)).of_same (Nat.zero_le _) rfl rfl rfl rfl
      exact closed.endRound
  | gap slot => exact placed.works (.of_dims (room.game.dims_hush slot))

end Room

namespace Hall

theorem placed_run {hall : Hall} (placed : hall.room.game.Placed) (moves : List Move) :
    (hall.run moves).room.game.Placed := by
  induction moves generalizing hall with
  | nil => exact placed
  | cons move rest inductionHypothesis =>
      apply inductionHypothesis
      rcases hall.does_step move with does | works
      · exact does.placed placed
      · exact placed.works works.game

end Hall

/-! ## Notices -/

namespace Room

variable {room : Room} {letter : Letter} {user : User}

/-- Letters that say the same to many are about that only. -/
theorem event_of_tellAll {game : Game} {event : GameEvent}
    (member : letter ∈ game.tellAll event) : letter.event = .game game.id event := by
  obtain ⟨recipient, -, rfl⟩ := List.mem_map.mp member
  rfl

/-- Events of other kinds blame nobody. -/
theorem not_blames {kinds : List GameEvent.Kind} {letters : List Letter}
    (tells : Tells kinds letters) (other : .playerDesynch ∉ kinds)
    (member : letter ∈ letters) : ¬ letter.Blames user := by
  rintro ⟨id, blames⟩
  obtain ⟨game, event, said, kind⟩ := tells letter member
  rw [blames] at said
  cases said
  exact other kind

/-- A user is blamed for a time-out whose number has reached the limit, and it is the
one whose queue has that player number. -/
theorem blames_noteTimeout {timeout : ReadTimeout} (placed : room.game.Placed)
    (member : letter ∈ (room.noteTimeout timeout).2) (blames : letter.Blames user) :
    room.game.settings.desynchTimeouts ≤ timeout.number ∧
      ∃ queue, room.game.queues[timeout.player.toNat - 1]? = some queue ∧
        user = room.people.person queue.user := by
  rcases room.noteTimeout_cases timeout with
    ⟨nothing, -⟩ | ⟨slot, queue, -, place, -, rfl, ⟨-, noted⟩ | ⟨beyond, noted⟩⟩
  · rw [nothing] at member
    cases member
  · rw [noted] at member
    have other : GameEvent.Kind.playerDesynch ∉ [GameEvent.Kind.timeout] := by decide
    refine absurd blames (not_blames ?_ other member)
    exact .tellAll _ (List.mem_singleton.mpr rfl)
  · rw [noted] at member
    refine ⟨beyond, queue, place, ?_⟩
    rcases List.mem_append.mp member with told | more
    · obtain ⟨game, event⟩ := blames
      rw [event_of_tellAll told] at event
      have owner : room.game.queueUsers[timeout.player.toNat - 1]? = some queue.user := by
        rw [← placed.users, List.getElem?_map, place]
        rfl
      simp only [Event.game.injEq, GameEvent.playerDesynch.injEq] at event
      rw [← event.2.1, List.getD_eq_getElem?_getD, owner]
      rfl
    · exact absurd blames (not_blames (Game.tells_desynchIfAlone _) (by decide) more)

/-- A retry that blames a user has counted a time-out, which is the one that the user
is blamed for. -/
theorem blames_resume {now : Nat} {parked : ParkedMerge}
    (member : letter ∈ (room.resume now parked).2.1) (blames : letter.Blames user) :
    room.lapses now parked = true ∧
      ∃ queue, room.game.queueAt? parked.merge.round parked.merge.slot = some queue ∧
        letter ∈ (room.noteTimeout
          ⟨queue.player, queue.user, parked.merge.timeouts + 1⟩).2 := by
  have noted : ∀ {timeout : ReadTimeout} {merge : Merge} {remaining : Nat},
      letter ∈ (room.noteTimeout timeout).2 ++
        ((room.noteTimeout timeout).1.collect now merge remaining).2.1 →
      letter ∈ (room.noteTimeout timeout).2 := by
    intro timeout merge remaining member
    rcases List.mem_append.mp member with first | later
    · exact first
    · exact absurd blames (not_blames (tells_collect _ now merge remaining) (by decide) later)
  unfold resume at member
  simp only at member
  split at member
  · cases member
  · rename_i queue place
    split at member
    · exact absurd blames (not_blames (tells_collect _ now _ _) (by decide) member)
    · rename_i failed
      exact ⟨lapses_of_failed place failed, queue, place, noted member⟩
    · rename_i blocked
      split at member
      · rename_i late
        have lapsed := (lapses_of_blocked place blocked).trans (decide_eq_true late)
        exact ⟨lapsed, queue, place, noted member⟩
      · cases member

/-- A gap in the messages of a user has a notice of its own. -/
theorem not_blames_droppedPacket (id : UserId) :
    ∀ letter ∈ (room.droppedPacket id).2, ¬ letter.Blames user := by
  unfold droppedPacket
  simp only
  split
  · exact fun _ member => by cases member
  · split
    · exact fun _ member => by cases member
    · split
      · intro letter member
        rcases List.mem_append.mp member with told | more
        · rintro ⟨game, event⟩
          rw [event_of_tellAll told] at event
          simp only [Event.game.injEq, GameEvent.playerDesynch.injEq] at event
          obtain ⟨-, rfl, text⟩ := event
          have letters := congrArg String.toList text
          simp only [String.toList_append, List.append_cancel_left_eq] at letters
          exact absurd letters (by decide)
        · exact not_blames (Game.tells_desynchIfAlone _) (by decide) more
      · exact fun _ member => by cases member

end Room

/-- Only the retry of a merge blames anybody. -/
theorem Hall.retried_of_blames {hall : Hall} {move : Move} {letter : Letter} {user : User}
    (member : letter ∈ hall.told move) (blames : letter.Blames user) :
    ∃ parked, hall.retried? move = some parked ∧
      letter ∈ ((hall.room.unpark parked.merge.ticket).resume hall.now parked).2.1 := by
  cases move with
  | retry ticket =>
      simp only [told] at member
      split at member
      · cases member
      · rename_i parked retried
        obtain ⟨same, -⟩ := retried?_some retried
        cases same
        exact ⟨parked, retried, member⟩
  | join user =>
      simp only [told] at member
      split at member
      · exact absurd blames (Room.not_blames (Room.tells_join _ _) (by decide) member)
      · cases member
  | start user => exact absurd blames (Room.not_blames (Room.tells_start _ _) (by decide) member)
  | ready user => exact absurd blames (Room.not_blames (Room.tells_ready _ _) (by decide) member)
  | drop user => exact absurd blames (Room.not_blames (Room.tells_drop _ _) (by decide) member)
  | quit user => exact absurd blames (Room.not_blames (Room.tells_quit _ _) (by decide) member)
  | kick user target =>
      exact absurd blames (Room.not_blames (Room.tells_kick _ _ _) (by decide) member)
  | close user => exact absurd blames (Room.not_blames (Room.tells_close _ _) (by decide) member)
  | gap user => exact absurd blames (Room.not_blames_droppedPacket _ letter member)
  | input user data =>
      exact absurd blames (Room.not_blames (Room.tells_addData _ _ _ _ _) (by decide) member)
  | pass milliseconds => cases member

/-! ## The time-outs that messages have met -/

namespace Hall

variable {hall after : Hall} {met : List Lapse}

theorem lapses_append (hall : Hall) (moves : List Move) (move : Move) :
    hall.lapses (moves ++ [move]) =
      hall.lapses moves ++ ((hall.run moves).lapse? move).toList := by
  induction moves generalizing hall with
  | nil => simp [lapses, run]
  | cons first rest inductionHypothesis => simp [lapses, run, inductionHypothesis]

/-- Every merge in flight has counted the time-outs that its message has met, and
tickets are given once. -/
structure Counted (met : List Lapse) (hall : Hall) : Prop where
  counts : ∀ parked ∈ hall.room.game.inFlight,
    parked.merge.timeouts = met.countP (·.ticket = parked.merge.ticket)
  tickets : ∀ parked ∈ hall.room.game.inFlight, parked.merge.ticket < hall.nextTicket
  given : ∀ lapse ∈ met, lapse.ticket < hall.nextTicket

namespace Counted

/-- Nothing new is in flight, and no ticket is given. -/
theorem of_flight (counted : hall.Counted met)
    (flight : ∀ parked ∈ after.room.game.inFlight, parked ∈ hall.room.game.inFlight)
    (next : after.nextTicket = hall.nextTicket) : after.Counted met where
  counts := fun parked member => counted.counts parked (flight parked member)
  tickets := fun parked member => next ▸ counted.tickets parked (flight parked member)
  given := next ▸ counted.given

/-- Users move. -/
theorem act (counted : hall.Counted met) (move : Move) :
    Counted met { hall with room := hall.room.act move } :=
  counted.of_flight
    (fun _ => (hall.room.does_act move).spares.flight.mem_iff.mp) rfl

/-- A message of input is handed in. -/
theorem input (counted : hall.Counted met) (user : UserId) (data : Bytes) :
    (hall.input user data).Counted met := by
  have parks := hall.room.parks_addData hall.now hall.nextTicket user data
  refine ⟨fun parked member => ?_, fun parked member => ?_, fun lapse member => ?_⟩
  · rcases parks parked member with old | new
    · exact counted.counts parked old
    · have ticket : parked.merge.ticket = hall.nextTicket := congrArg TimeoutTally.ticket new
      have none : parked.merge.timeouts = 0 := congrArg TimeoutTally.timeouts new
      rw [none, ticket, eq_comm, List.countP_eq_zero]
      intro lapse earlier
      simpa using Nat.ne_of_lt (counted.given lapse earlier)
  · apply Nat.lt_succ_iff.mpr
    rcases parks parked member with old | new
    · exact Nat.le_of_lt (counted.tickets parked old)
    · exact Nat.le_of_eq (congrArg TimeoutTally.ticket new)
  · exact Nat.lt_succ_of_lt (counted.given lapse member)

/-- A merge in flight goes on, and has met some time-outs more. -/
theorem goes_on {parked : ParkedMerge} {more : List Lapse} (counted : hall.Counted met)
    (flight : parked ∈ hall.room.game.inFlight)
    (own : ∀ lapse ∈ more, lapse.ticket = parked.merge.ticket)
    (next : after.nextTicket = hall.nextTicket)
    (parks : ∀ other ∈ after.room.game.inFlight,
      other ∈ hall.room.game.inFlight ∧ other.merge.ticket ≠ parked.merge.ticket ∨
        other.merge.ticket = parked.merge.ticket ∧
          other.merge.timeouts = parked.merge.timeouts + more.length) :
    after.Counted (met ++ more) := by
  have known := counted.tickets parked flight
  refine ⟨fun other member => ?_, fun other member => ?_, fun lapse member => ?_⟩
  · rw [List.countP_append]
    rcases parks other member with ⟨old, apart⟩ | ⟨same, counts⟩
    · have none : more.countP (·.ticket = other.merge.ticket) = 0 := by
        rw [List.countP_eq_zero]
        intro lapse mine
        simpa [own lapse mine] using Ne.symm apart
      rw [none, Nat.add_zero]
      exact counted.counts other old
    · have all : more.countP (·.ticket = other.merge.ticket) = more.length := by
        rw [List.countP_eq_length]
        intro lapse mine
        simp [own lapse mine, same]
      rw [counts, all, same, counted.counts parked flight]
  · rw [next]
    rcases parks other member with ⟨old, -⟩ | ⟨same, -⟩
    · exact counted.tickets other old
    · exact same ▸ known
  · rw [next]
    rcases List.mem_append.mp member with old | mine
    · exact counted.given lapse old
    · exact own lapse mine ▸ known

/-- A parked merge is retried, and counts the time-out that it meets. -/
theorem retry (counted : hall.Counted met) (ticket : Nat) :
    (hall.retry ticket).Counted (met ++ (hall.lapse? (.retry ticket)).toList) := by
  rw [retry_eq]
  cases retried : hall.retried? (.retry ticket) with
  | none => simpa [lapse?, retried] using counted
  | some parked =>
      obtain ⟨same, flight⟩ := retried?_some retried
      cases same
      have parks := (hall.room.unpark parked.merge.ticket).parks_resume hall.now parked
      -- The queues are the same with the merge off the lists.
      have clock : (hall.room.unpark parked.merge.ticket).lapses hall.now parked =
          hall.room.lapses hall.now parked := rfl
      rw [clock] at parks
      rw [lapse?_of_retried retried]
      cases counts : hall.room.lapses hall.now parked with
      | false =>
          rw [counts] at parks
          refine counted.goes_on flight (by simp) rfl fun other member =>
            (parks other member).imp Room.mem_inFlight_unpark.mp fun tally => ?_
          exact ⟨congrArg TimeoutTally.ticket tally, congrArg TimeoutTally.timeouts tally⟩
      | true =>
          rw [counts] at parks
          refine counted.goes_on flight (by simp) rfl fun other member =>
            (parks other member).imp Room.mem_inFlight_unpark.mp fun tally => ?_
          exact ⟨congrArg TimeoutTally.ticket tally, congrArg TimeoutTally.timeouts tally⟩

theorem step (counted : hall.Counted met) (move : Move) :
    (hall.step move).Counted (met ++ (hall.lapse? move).toList) := by
  cases move with
  | retry ticket => exact counted.retry ticket
  | input user data => simpa [lapse?, retried?, Hall.step] using counted.input user data
  | pass milliseconds =>
      have passed : (hall.step (.pass milliseconds)).Counted met :=
        counted.of_flight (fun _ member => member) rfl
      simpa [lapse?, retried?] using passed
  | _ => simpa [lapse?, retried?, Hall.step] using counted.act _

theorem run (counted : hall.Counted met) (moves : List Move) :
    (hall.run moves).Counted (met ++ hall.lapses moves) := by
  induction moves generalizing hall met with
  | nil => simpa [lapses, Hall.run] using counted
  | cons move rest inductionHypothesis =>
      simpa [lapses, Hall.run] using inductionHypothesis (counted.step move)

end Counted

/-- A move that blames a user has counted a time-out at the queue of that user's number,
and the message has met at least as many as the settings tolerate. -/
theorem lapse_of_blames {move : Move} {letter : Letter} {user : User}
    (counted : hall.Counted met) (placed : hall.room.game.Placed)
    (member : letter ∈ hall.told move) (blames : letter.Blames user) :
    ∃ lapse queue, hall.lapse? move = some lapse ∧
      hall.room.game.queues[lapse.slot]? = some queue ∧
      user = hall.room.people.person queue.user ∧
      hall.room.game.settings.desynchTimeouts ≤ met.countP (·.ticket = lapse.ticket) + 1 := by
  obtain ⟨parked, retried, letterMember⟩ := retried_of_blames member blames
  obtain ⟨counts, late, latePlace, noted⟩ := Room.blames_resume letterMember blames
  -- The queues, the users and the settings are the same with the merge off the lists.
  have counts : hall.room.lapses hall.now parked = true := counts
  have latePlace : hall.room.game.queueAt? parked.merge.round parked.merge.slot = some late :=
    latePlace
  have unparked : (hall.room.unpark parked.merge.ticket).game.Placed :=
    placed.works (hall.room.works_unpark parked.merge.ticket).game
  obtain ⟨beyond, queue, place, isUser⟩ := Room.blames_noteTimeout unparked noted blames
  have place : hall.room.game.queues[late.player.toNat - 1]? = some queue := place
  have number : late.player.toNat = parked.merge.slot + 1 := by
    rw [Game.queueAt?_eq] at latePlace
    exact placed.numbered parked.merge.round parked.merge.slot late latePlace
  rw [number, Nat.add_sub_cancel] at place
  refine ⟨⟨parked.merge.ticket, parked.merge.round, parked.merge.slot⟩, queue, ?_, place,
    isUser, ?_⟩
  · rw [lapse?_of_retried retried, if_pos counts]
  · rw [← counted.counts parked (retried?_some retried).2]
    exact beyond

/-- In every run of a new game, a user is blamed for lagging when a message has met at
least as many time-outs as the settings tolerate, and at least one; the last was counted
at a queue in the place of that user.

That many were met at the queue of that user itself, unless some were met elsewhere: at
the queue of another player, or at one of a round that is over. -/
theorem lagged_after (id : GameId) (name : String) (owner : User) (settings : GameSettings)
    (people : Roster) (moves : List Move) (move : Move) (hall : Hall)
    (reached : hall = (fresh id name owner settings people).run moves)
    {letter : Letter} {user : User} (member : letter ∈ hall.told move)
    (blames : letter.Blames user) :
    ∃ lapse queue met, hall.lapse? move = some lapse ∧
      hall.room.game.queues[lapse.slot]? = some queue ∧
      user = hall.room.people.person queue.user ∧
      met = (fresh id name owner settings people).met (moves ++ [move]) lapse.ticket ∧
      max settings.desynchTimeouts 1 ≤ met.length ∧
      ((∃ other ∈ met, ¬ other.At hall.room.game.round lapse.slot) ∨
        max settings.desynchTimeouts 1 ≤ met.countP (·.At hall.room.game.round lapse.slot)) := by
  have new : (fresh id name owner settings people).Counted [] :=
    ⟨fun _ flight => (by cases flight), fun _ flight => (by cases flight),
      fun _ earlier => (by cases earlier)⟩
  have empty : (fresh id name owner settings people).room.game.Placed :=
    ⟨Nat.zero_le _, rfl, fun round slot queue place => by
      simp [fresh, Game.create, Game.roundQueues, Game.endedQueues] at place⟩
  have counted : hall.Counted ((fresh id name owner settings people).lapses moves) :=
    reached ▸ new.run moves
  have placed : hall.room.game.Placed := reached ▸ placed_run empty moves
  have rule : hall.room.game.settings = settings := reached ▸ settings_run _ moves
  obtain ⟨lapse, queue, last, place, isUser, beyond⟩ :=
    lapse_of_blames counted placed member blames
  have enough : max settings.desynchTimeouts 1 ≤
      ((fresh id name owner settings people).met (moves ++ [move]) lapse.ticket).length := by
    unfold met
    rw [lapses_append, ← reached, last, ← List.countP_eq_length_filter, List.countP_append]
    rw [rule] at beyond
    simpa using beyond
  refine ⟨lapse, queue, _, last, place, isUser, rfl, enough, ?_⟩
  refine Decidable.or_iff_not_imp_left.mpr fun nowhere => ?_
  rwa [List.countP_eq_length.mpr]
  simpa using nowhere

/-- One player sends a message, and waits too long for the next one, twice. -/
def lateTwice : List Move :=
  [.join 1, .join 2, .join 3, .start 1, .ready 1, .ready 2, .ready 3, .input 1 [1],
    .pass 1250, .retry 0, .pass 1250]

theorem lagged_after_lateTwice :
    ∃ letter ∈ (trio.run lateTwice).told (.retry 0),
      letter.Blames ((trio.run lateTwice).room.people.person 2) ∧
      2 ≤ (trio.met (lateTwice ++ [.retry 0]) 0).countP (·.At 1 1) := by
  obtain ⟨letter, member, event⟩ : ∃ letter ∈ (trio.run lateTwice).told (.retry 0),
      letter.event = .game 1 (.playerDesynch ((trio.run lateTwice).room.people.person 2)
        (((trio.run lateTwice).room.people.person 2).name ++ " desynched: lagged")) := by
    decide +kernel
  have second : (trio.run lateTwice).lapse? (.retry 0) = some ⟨0, 1, 1⟩ := by decide +kernel
  have round : (trio.run lateTwice).room.game.round = 1 := by decide +kernel
  have own : ∀ lapse ∈ trio.met (lateTwice ++ [.retry 0]) 0, lapse.At 1 1 := by
    decide +kernel
  obtain ⟨lapse, queue, met, last, -, -, rfl, -, often⟩ :=
    lagged_after 1 "" (guest 1) { desynchTimeouts := 2 } ⟨[guest 1, guest 2, guest 3], []⟩
      lateTwice (.retry 0) (trio.run lateTwice) rfl member ⟨1, event⟩
  obtain rfl := Option.some.inj (last.symm.trans second)
  rw [round] at often
  refine ⟨letter, member, ⟨1, event⟩, often.resolve_left ?_⟩
  rintro ⟨other, met, elsewhere⟩
  exact elsewhere (own other met)

/-- The message meets one time-out at the queue of the second player, which sends then,
and one at that of the third, who is blamed at once. -/
def lateInTurn : List Move :=
  [.join 1, .join 2, .join 3, .start 1, .ready 1, .ready 2, .ready 3, .input 1 [1],
    .pass 1250, .retry 0, .input 2 [2], .retry 0, .pass 1250]

theorem lagged_once :
    (∃ letter ∈ (trio.run lateInTurn).told (.retry 0),
      letter.Blames ((trio.run lateInTurn).room.people.person 3)) ∧
    (trio.run lateInTurn).room.game.settings.desynchTimeouts = 2 ∧
    (trio.run lateInTurn).room.game.queues[2]?.map (·.user) = some 3 ∧
    (trio.lapses (lateInTurn ++ [.retry 0])).countP (·.At 1 2) = 1 := by
  obtain ⟨letter, member, event⟩ : ∃ letter ∈ (trio.run lateInTurn).told (.retry 0),
      letter.event = .game 1 (.playerDesynch ((trio.run lateInTurn).room.people.person 3)
        (((trio.run lateInTurn).room.people.person 3).name ++ " desynched: lagged")) := by
    decide +kernel
  refine ⟨⟨letter, member, 1, event⟩, ?_, ?_, ?_⟩
  · decide +kernel
  · decide +kernel
  · decide +kernel

end Hall

end Netplay
