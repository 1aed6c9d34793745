/-
Module: Netplay.Proofs.Gathering
Purpose: When the players of a round have all got ready: play begins with the last
  signal, and only a player that leaves before can keep the others from playing.
Main exports:
  Game.Phased, Room.Does.phased, Hall.phased_run, Hall.plays_once_ready,
  Room.Deserted, Hall.deserted_run
-/
import Netplay.Proofs.TimeoutBound

namespace Netplay

/-! ## What the status says of the queues -/

/-- A game that waits has no queues, one whose players get ready has a queue that is
not in synchrony yet, and one that is played but merges no input has none left in
synchrony. -/
structure Game.Phased (game : Game) : Prop where
  waits : game.status = .waiting → game.queues = []
  gathers : game.status = .synchronizing → ∃ queue ∈ game.queues, queue.synched = false
  mute : game.status = .playing → game.synched = false →
    ∀ queue ∈ game.queues, queue.synched = false

namespace Game.Phased

variable {game after : Game}

/-- A game that waits, without queues. -/
theorem of_waiting (waiting : game.status = .waiting) (none : game.queues = []) : game.Phased :=
  ⟨fun _ => none, by simp [waiting], by simp [waiting]⟩

/-- Only what the status, the queues and the merging are counts. -/
theorem of_same (phased : game.Phased) (status : after.status = game.status)
    (queues : after.queues = game.queues) (synched : after.synched = game.synched) :
    after.Phased :=
  ⟨by simpa [status, queues] using phased.waits, by simpa [status, queues] using phased.gathers,
    by simpa [status, queues, synched] using phased.mute⟩

/-- Work on merges brings no queue into synchrony. -/
theorem works (phased : game.Phased) (works : game.Works after) : after.Phased := by
  have queues := works.queues
  have muted := works.mute
  obtain ⟨_, _, _, _, _, rfl⟩ := works.frame
  constructor
  · exact fun waiting => queues.eq_nil_iff.mpr (phased.waits waiting)
  · intro gathering
    obtain ⟨queue, member, silent⟩ := phased.gathers gathering
    obtain ⟨slot, place⟩ := List.getElem?_of_mem member
    have inside : slot < game.queues.length := (List.getElem?_eq_some_iff.mp place).1
    rw [← queues.length] at inside
    have later := List.getElem?_eq_getElem inside
    obtain ⟨earlier, before, ages⟩ := queues.each slot _ later
    rw [place] at before
    obtain rfl := Option.some.inj before
    refine ⟨_, List.mem_of_getElem? later, Bool.eq_false_iff.mpr fun on => ?_⟩
    rw [ages.synched on] at silent
    cases silent
  · intro playing off
    cases merging : game.synched with
    | true => exact muted merging off
    | false => exact queues.silent (phased.mute playing merging)

end Game.Phased

namespace Room

variable {room after : Room} {id : UserId} {slot : Nat}

theorem phased_bench (phased : room.game.Phased) : (room.bench id slot).game.Phased := by
  unfold bench
  split
  · exact phased.works (.of_dims (room.game.dims_hush slot))
  · exact Game.Phased.of_waiting rfl (room.game.hush slot).queues_endRound

/-- No move of a user but closing the game puts its status out of step with its
queues. -/
theorem Does.phased {move : Move} (does : room.Does move after) (phased : room.game.Phased)
    (live : move ≠ .close room.game.owner) : after.game.Phased := by
  cases does with
  | rest => exact phased
  | join new waiting space known => exact phased.of_same rfl rfl rfl
  | start waiting someone =>
      -- All queues are new, and there are some.
      have members : room.game.endRound.members = room.game.members :=
        (Game.Keeps.endRound room.game).members
      have first : room.game.endRound.startQueues ≠ [] := by
        rw [← List.length_pos_iff, Game.length_startQueues, members]
        exact List.length_pos_iff.mpr someone
      obtain ⟨queue, member⟩ := List.exists_mem_of_ne_nil _ first
      refine ⟨by simp [commence, Game.commence], fun _ => ?_, by simp [commence, Game.commence]⟩
      exact ⟨queue, member, synched_startQueues _ queue member⟩
  | allReady member gathering seat all => exact ⟨by simp, by simp, by simp⟩
  | ready member gathering seat missing =>
      exact ⟨by simp [gathering], fun _ => missing, by simp [gathering]⟩
  | drop member seat => exact phased_bench phased
  | quit member =>
      rcases room.left_cases _ with stays | ⟨slot, -, benched⟩
      · rw [stays]
        exact phased.of_same rfl rfl rfl
      · rw [benched]
        exact (phased_bench phased).of_same rfl rfl rfl
  | kick kicked => exact phased.of_same rfl rfl rfl
  | close dims mute off => exact absurd rfl live
  | gap slot => exact phased.works (.of_dims (room.game.dims_hush slot))

end Room

namespace Hall

variable {hall : Hall}

theorem phased_step (phased : hall.room.game.Phased) {move : Move}
    (live : move ≠ .close hall.room.game.owner) : (hall.step move).room.game.Phased := by
  rcases hall.does_step move with does | works
  · exact does.phased phased live
  · exact phased.works works.game

/-- The owner of a game does not change. -/
theorem owner_step (hall : Hall) (move : Move) :
    (hall.step move).room.game.owner = hall.room.game.owner := by
  rcases hall.does_step move with does | works
  · exact does.spares.owner
  · exact (Game.Keeps.of_works works.game).owner

theorem phased_run (phased : hall.room.game.Phased) {moves : List Move}
    (live : .close hall.room.game.owner ∉ moves) : (hall.run moves).room.game.Phased := by
  induction moves generalizing hall with
  | nil => exact phased
  | cons move rest inductionHypothesis =>
      obtain ⟨now, later⟩ := not_or.mp (List.mem_cons.not.mp live)
      apply inductionHypothesis (phased_step phased (Ne.symm now))
      rwa [owner_step]

/-- Whatever happens to a game that is not closed, in any order, its players get ready
only as long as one of them is not, and play begins as soon as all of them are.

So long as no player of the round has left while they get ready, that is a member of the
game; and once all members that have queues are ready, the game is played and merges
their input. -/
theorem plays_once_ready (id : GameId) (name : String) (owner : User)
    (settings : GameSettings) (people : Roster) (moves : List Move)
    (live : .close owner.id ∉ moves) (game : Game)
    (reached : game = ((fresh id name owner settings people).run moves).room.game) :
    (game.status = .synchronizing → ∃ queue ∈ game.queues, queue.synched = false) ∧
    ((∀ queue ∈ game.queues, queue.user ∈ game.members) → game.status = .synchronizing →
      ∃ queue ∈ game.queues, queue.user ∈ game.members ∧ queue.synched = false) ∧
    ((game.status = .synchronizing → ∀ queue ∈ game.queues, queue.user ∈ game.members) →
      (∃ queue ∈ game.queues, queue.user ∈ game.members) →
      (∀ queue ∈ game.queues, queue.user ∈ game.members → queue.synched = true) →
      game.status = .playing ∧ game.synched = true) := by
  have new : (fresh id name owner settings people).room.game.Phased :=
    .of_waiting rfl rfl
  have phased : game.Phased := reached ▸ phased_run new live
  refine ⟨phased.gathers, fun all gathering => ?_, fun stay some ready => ?_⟩
  · obtain ⟨queue, member, silent⟩ := phased.gathers gathering
    exact ⟨queue, member, all queue member, silent⟩
  · obtain ⟨queue, member, isMember⟩ := some
    have on := ready queue member isMember
    cases status : game.status with
    | waiting =>
        rw [phased.waits status] at member
        cases member
    | synchronizing =>
        obtain ⟨other, otherMember, silent⟩ := phased.gathers status
        rw [ready other otherMember (stay status other otherMember)] at silent
        cases silent
    | playing =>
        refine ⟨rfl, ?_⟩
        cases merging : game.synched with
        | true => rfl
        | false =>
            rw [phased.mute status merging queue member] at on
            cases on

/-- Three players of whom two have signalled that they are ready. -/
def twoReady : List Move :=
  [.join 1, .join 2, .join 3, .start 1, .ready 1, .ready 2]

theorem plays_once_ready_three :
    (∃ queue ∈ (trio.run twoReady).room.game.queues,
      queue.user ∈ (trio.run twoReady).room.game.members ∧ queue.synched = false) ∧
    (trio.run (twoReady ++ [.ready 3])).room.game.status = .playing ∧
      (trio.run (twoReady ++ [.ready 3])).room.game.synched = true := by
  obtain ⟨-, waits, -⟩ := plays_once_ready 1 "" (guest 1) { desynchTimeouts := 2 }
    ⟨[guest 1, guest 2, guest 3], []⟩ twoReady (by decide) _ rfl
  obtain ⟨-, -, plays⟩ := plays_once_ready 1 "" (guest 1) { desynchTimeouts := 2 }
    ⟨[guest 1, guest 2, guest 3], []⟩ (twoReady ++ [.ready 3]) (by decide) _ rfl
  refine ⟨waits ?_ ?_, plays ?_ ?_ ?_⟩
  · decide +kernel
  · decide +kernel
  · decide +kernel
  · decide +kernel
  · decide +kernel

end Hall

/-! ## A player that leaves the others waiting -/

/-- Nobody goes out of the round or the game. -/
def Move.Stays : Move → Prop
  | .drop _ | .quit _ | .close _ => False
  | _ => True

/-- The players get ready, and the queue in a place is not in synchrony and belongs to
no member. -/
structure Room.Deserted (slot : Nat) (room : Room) : Prop where
  gathering : room.game.status = .synchronizing
  missing : ∃ queue, room.game.queues[slot]? = some queue ∧ queue.synched = false
  nobody : ∀ member ∈ room.game.members,
    room.game.slotFor? (room.people.person member) ≠ some slot

namespace Room.Deserted

variable {room after : Room} {slot : Nat}

/-- Seats depend on the number of queues only. -/
theorem of_length (deserted : room.Deserted slot) (status : after.game.status = room.game.status)
    (members : after.game.members = room.game.members) (people : after.people = room.people)
    (length : after.game.queues.length = room.game.queues.length)
    (missing : ∃ queue, after.game.queues[slot]? = some queue ∧ queue.synched = false) :
    after.Deserted slot := by
  refine ⟨status.trans deserted.gathering, missing, ?_⟩
  rw [members, people]
  intro member isMember
  simpa only [Game.slotFor?, length] using deserted.nobody member isMember

theorem works (deserted : room.Deserted slot) (works : room.Works after) :
    after.Deserted slot := by
  have queues := works.game.queues
  obtain ⟨queue, place, silent⟩ := deserted.missing
  have inside : slot < after.game.queues.length := by
    rw [queues.length]
    exact (List.getElem?_eq_some_iff.mp place).1
  have later := List.getElem?_eq_getElem inside
  obtain ⟨earlier, before, ages⟩ := queues.each slot _ later
  obtain rfl := Option.some.inj (place.symm.trans before)
  refine deserted.of_length ?_ (Game.Keeps.of_works works.game).members works.people
    queues.length ⟨_, later, Bool.eq_false_iff.mpr fun on => ?_⟩
  · obtain ⟨_, _, _, _, _, frame⟩ := works.game.frame
    rw [frame]
  · rw [ages.synched on] at silent
    cases silent

/-- A signal of a member does not touch the queue of the one that left. -/
theorem marked (deserted : room.Deserted slot) {id : UserId} {place : Nat}
    (member : id ∈ room.game.members)
    (seat : room.game.slotFor? (room.people.person id) = some place) :
    ∃ queue, (room.marked place)[slot]? = some queue ∧ queue.synched = false := by
  obtain ⟨queue, here, silent⟩ := deserted.missing
  have apart : place ≠ slot := by
    rintro rfl
    exact deserted.nobody id member seat
  exact ⟨queue, by simp [Room.marked, apart, here], silent⟩

/-- As long as nobody else goes, the players get ready for ever. -/
theorem does (deserted : room.Deserted slot) {move : Move} (stays : move.Stays)
    (does : room.Does move after) : after.Deserted slot := by
  cases does with
  | rest => exact deserted
  | join new waiting space known => exact absurd (deserted.gathering.symm.trans waiting) (by decide)
  | start waiting someone => exact absurd (deserted.gathering.symm.trans waiting) (by decide)
  | allReady member gathering seat all =>
      obtain ⟨queue, place, silent⟩ := deserted.marked member seat
      rw [all queue (List.mem_of_getElem? place)] at silent
      cases silent
  | ready member gathering seat missing =>
      exact deserted.of_length rfl rfl rfl (List.length_modify ..) (deserted.marked member seat)
  | drop member seat => exact stays.elim
  | quit member => exact stays.elim
  | kick kicked => exact deserted.of_length rfl rfl rfl rfl deserted.missing
  | close dims mute off => exact stays.elim
  | gap place => exact deserted.works (.of_game (.of_dims (room.game.dims_hush place)))

end Room.Deserted

namespace Hall

/-- Whatever signals come, a deserted game is never played. -/
theorem deserted_run {hall : Hall} {slot : Nat} (deserted : hall.room.Deserted slot)
    {moves : List Move} (stay : ∀ move ∈ moves, move.Stays) :
    (hall.run moves).room.Deserted slot := by
  induction moves generalizing hall with
  | nil => exact deserted
  | cons move rest inductionHypothesis =>
      apply inductionHypothesis _ fun later member => stay later (List.mem_cons_of_mem _ member)
      rcases hall.does_step move with does | works
      · exact deserted.does (stay move List.mem_cons_self) does
      · exact deserted.works works

/-- The third player leaves when the two others are ready: both wait for it, though it
is not in the game any more, and nothing that they signal ends that. -/
theorem ready_unplayed :
    (trio.run (twoReady ++ [.quit 3])).room.game.members = [1, 2] ∧
      (∀ queue ∈ (trio.run (twoReady ++ [.quit 3])).room.game.queues,
        queue.user ∈ (trio.run (twoReady ++ [.quit 3])).room.game.members →
          queue.synched = true) ∧
      ∀ signals, (∀ move ∈ signals, move.Stays) →
        ((trio.run (twoReady ++ [.quit 3])).run signals).room.game.status = .synchronizing := by
  have members : (trio.run (twoReady ++ [.quit 3])).room.game.members = [1, 2] := by
    decide +kernel
  refine ⟨members, by decide +kernel, fun signals stay => ?_⟩
  have deserted : (trio.run (twoReady ++ [.quit 3])).room.Deserted 2 := by
    refine ⟨by decide +kernel, ⟨_, rfl, by decide +kernel⟩, ?_⟩
    rw [members, List.forall_mem_cons, List.forall_mem_singleton]
    exact ⟨by decide +kernel, by decide +kernel⟩
  exact (deserted_run deserted stay).gathering

end Hall

end Netplay
