/-
Module: Netplay.Proofs.FrameAgreement
Purpose: What the frames of a round hold: in lockstep everybody's input, action
  by action and player by player, and when players go out of synchrony the same
  input for all that are still in it.
Main exports:
  Carries, Blank, Arena.lockstep_merge, Arena.frames_agree
-/
import Netplay.Proofs.Membership

namespace Netplay

/-- A frame for `players` players holds, in the place of the one in `slot`, the
bytes of action `action` of a message. -/
def Carries (frame : Bytes) (players size action slot : Nat) (message : Bytes) : Prop :=
  ∀ offset < size,
    frame[action * players * size + slot * size + offset]? =
      message[action * size + offset]?

/-- A frame holds zeros for action `action` of the player in place `slot`. -/
def Blank (frame : Bytes) (players size action slot : Nat) : Prop :=
  ∀ offset < size, frame[action * players * size + slot * size + offset]? = some 0

namespace RoundView.Gathered

variable {view : RoundView} {size index actions : Nat} {parts : List Bytes}

theorem even (gathered : view.Gathered size index parts) :
    ∀ part ∈ parts, part.length = size := by
  intro part member
  obtain ⟨place, here⟩ := List.getElem?_of_mem member
  exact (gathered place part here).1

/-- The length of a frame. -/
theorem length (gathered : view.Gathered size index parts)
    (all : parts.length = actions * view.players) :
    parts.flatten.length = actions * view.players * size := by
  rw [length_flatten_of_width gathered.even, all]

/-- What a frame holds in the place of a player. -/
theorem carries (gathered : view.Gathered size index parts)
    (all : parts.length = actions * view.players) {action slot : Nat}
    (inside : action < actions) {queue : ActionQueue}
    (place : view.queues[slot]? = some queue) :
    (∃ message, (view.messages queue.user)[index]? = some message ∧
        Carries parts.flatten view.players size action slot message) ∨
      (queue.synched = false ∧ Blank parts.flatten view.players size action slot) := by
  have below : slot < view.players := (List.getElem?_eq_some_iff.mp place).1
  have positive : 0 < view.players := Nat.zero_lt_of_lt below
  have quotient : (action * view.players + slot) / view.players = action := by
    rw [Nat.mul_comm, Nat.mul_add_div positive, Nat.div_eq_of_lt below, Nat.add_zero]
  have remainder : (action * view.players + slot) % view.players = slot := by
    rw [Nat.mul_comm, Nat.mul_add_mod, Nat.mod_eq_of_lt below]
  have within : action * view.players + slot < parts.length := by
    have room := Nat.mul_le_mul_right view.players (Nat.succ_le_of_lt inside)
    rw [Nat.succ_mul] at room
    omega
  have part := List.getElem?_eq_getElem within
  -- The bytes of the frame are those of the part.
  have bytes : ∀ offset < size,
      parts.flatten[action * view.players * size + slot * size + offset]? =
        (parts[action * view.players + slot])[offset]? := by
    intro offset small
    rw [← Nat.add_mul, flatten_getElem? gathered.even _ small, part]
    rfl
  obtain ⟨-, source⟩ := gathered _ _ part
  rw [remainder, quotient] at source
  rcases source queue place with ⟨message, sent, same⟩ | ⟨silent, zeros⟩
  · refine Or.inl ⟨message, sent, fun offset small => ?_⟩
    rw [bytes offset small, same]
    exact getElem?_share message action small
  · refine Or.inr ⟨silent, fun offset small => ?_⟩
    rw [bytes offset small, zeros]
    exact List.getElem?_replicate_of_lt small

end RoundView.Gathered

namespace Arena

variable {arena : Arena} {round actions size : Nat}

/-- A successful call of a player in synchrony gives it, and nobody else, one
whole frame. -/
theorem Sound.frame (sound : arena.Sound none)
    (uniform : arena.Uniform round actions size)
    (room : ∀ queue ∈ arena.game.roundQueues round,
      2 * (actions * size) ≤ queue.capacity)
    {slot index : Nat} {queue : ActionQueue} {turn : Turn}
    (place : (arena.game.roundQueues round)[slot]? = some queue)
    (synched : queue.synched = true)
    (ended : (arena.returns round queue.user)[index]? = some turn)
    (success : turn.result = some (.ok ())) :
    ∃ frame : Bytes,
      turn.frames = [⟨queue.user, .game arena.game.id (.data frame)⟩] ∧
      frame.length = actions * (arena.game.roundQueues round).length * size ∧
      ∀ action < actions, ∀ (other : Nat) (another : ActionQueue),
        (arena.game.roundQueues round)[other]? = some another →
        (∃ message, (arena.messages round another.user)[index]? = some message ∧
          Carries frame (arena.game.roundQueues round).length size action other
            message) ∨
        (another.synched = false ∧
          Blank frame (arena.game.roundQueues round).length size action other) := by
  have kept : arena.game.roundQueues round ≠ [] := by
    intro none
    rw [none] at place
    cases place
  obtain ⟨parts, all, frame, gathered⟩ :=
    (sound.inStep round actions size uniform kept room).frames slot queue index turn
      place synched ended success
  exact ⟨parts.flatten, frame, gathered.length all, fun action inside other another there =>
    gathered.carries all inside there⟩

/-- An arena that some run of a new game leads to. -/
def Reached (arena : Arena) : Prop :=
  ∃ id name owner settings people moves,
    arena = (fresh id name owner settings people).run moves

theorem Reached.sound (reached : arena.Reached) : arena.Sound none := by
  obtain ⟨id, name, owner, settings, people, moves, rfl⟩ := reached
  exact (sound_fresh id name owner settings people).run moves

/-! ## Lockstep -/

/-- A user with one action in each message. -/
def guest (id : UserId) : User :=
  { User.connecting id ⟨"", 0⟩ "" with connectionType := 1 }

/-- Two users play and have sent one message each. -/
def duo : Arena :=
  (fresh 1 "" (guest 1) {} ⟨[guest 1, guest 2], []⟩).run
    [.join 1, .join 2, .start 1, .ready 1, .ready 2, .input 1 [7], .input 2 [8],
      .retry 0]

/-- Three users play, and the first goes out of synchrony while the second waits
for the third: the second has taken the input of the first, and the third gets
zeros in its place. -/
def trio : Arena :=
  (fresh 1 "" (guest 1) {} ⟨[guest 1, guest 2, guest 3], []⟩).run
    [.join 1, .join 2, .join 3, .start 1, .ready 1, .ready 2, .ready 3, .input 1 [1],
      .input 2 [2], .gap 1, .input 3 [3], .retry 1]

/-- Two players in synchrony may get different frames for calls of the same
number. -/
theorem frames_differ : ¬ ∀ (arena : Arena) (round actions size slot other index : Nat)
    (queue another : ActionQueue) (turn later : Turn), arena.Reached →
    arena.Uniform round actions size →
    (∀ queue ∈ arena.game.roundQueues round, 2 * (actions * size) ≤ queue.capacity) →
    (arena.game.roundQueues round)[slot]? = some queue → queue.synched = true →
    (arena.game.roundQueues round)[other]? = some another → another.synched = true →
    (arena.returns round queue.user)[index]? = some turn →
    turn.result = some (.ok ()) →
    (arena.returns round another.user)[index]? = some later →
    later.result = some (.ok ()) →
    turn.frames.map (·.event) = later.frames.map (·.event) := by
  intro claim
  have reached : trio.Reached := ⟨_, _, _, _, _, _, rfl⟩
  have uniform : trio.Uniform 1 1 1 := by
    unfold Uniform
    decide
  have same := claim trio 1 1 1 1 2 0 _ _ _ _ reached uniform (by decide) rfl (by decide)
    rfl (by decide) rfl (by rfl) rfl (by rfl)
  revert same
  decide

/-- Frames agree.  In a round, current or ended, whose messages have one length
and whose queues have room for two of them, let the calls of one number of two
players have succeeded, while both are in synchrony.  Each has sent one frame,
to its player alone; the frames have one length; in the place of every player in
synchrony they are equal and hold its message of that number; in the place of a
player that has gone out of synchrony each of them holds, for each action, the
bytes of that message or zeros. -/
theorem frames_agree (reached : arena.Reached)
    (uniform : arena.Uniform round actions size)
    (room : ∀ queue ∈ arena.game.roundQueues round,
      2 * (actions * size) ≤ queue.capacity)
    {slot other index : Nat} {queue another : ActionQueue} {turn later : Turn}
    (place : (arena.game.roundQueues round)[slot]? = some queue)
    (synched : queue.synched = true)
    (otherPlace : (arena.game.roundQueues round)[other]? = some another)
    (otherSynched : another.synched = true)
    (ended : (arena.returns round queue.user)[index]? = some turn)
    (success : turn.result = some (.ok ()))
    (otherEnded : (arena.returns round another.user)[index]? = some later)
    (otherSuccess : later.result = some (.ok ())) :
    ∃ frame second : Bytes,
      turn.frames = [⟨queue.user, .game arena.game.id (.data frame)⟩] ∧
      later.frames = [⟨another.user, .game arena.game.id (.data second)⟩] ∧
      frame.length = actions * (arena.game.roundQueues round).length * size ∧
      second.length = frame.length ∧
      ∀ action < actions, ∀ (third : Nat) (player : ActionQueue),
        (arena.game.roundQueues round)[third]? = some player →
        (player.synched = true →
          (∀ offset < size,
            frame[action * (arena.game.roundQueues round).length * size +
                third * size + offset]? =
              second[action * (arena.game.roundQueues round).length * size +
                third * size + offset]?) ∧
          ∃ message, (arena.messages round player.user)[index]? = some message ∧
            Carries frame (arena.game.roundQueues round).length size action third
              message) ∧
        ∀ either ∈ [frame, second],
          (∃ message, (arena.messages round player.user)[index]? = some message ∧
            Carries either (arena.game.roundQueues round).length size action third
              message) ∨
          Blank either (arena.game.roundQueues round).length size action third := by
  have sound := reached.sound
  obtain ⟨frame, sent, length, holds⟩ :=
    sound.frame uniform room place synched ended success
  obtain ⟨second, otherSent, otherLength, otherHolds⟩ :=
    sound.frame uniform room otherPlace otherSynched otherEnded otherSuccess
  refine ⟨frame, second, sent, otherSent, length, otherLength.trans length.symm,
    fun action inside third player there => ⟨fun inSynchrony => ?_, ?_⟩⟩
  · rcases holds action inside third player there with
      ⟨message, sent, carries⟩ | ⟨silent, -⟩
    · rcases otherHolds action inside third player there with
        ⟨again, sentAgain, carriesAgain⟩ | ⟨silent, -⟩
      · rw [sent] at sentAgain
        cases sentAgain
        refine ⟨fun offset small => ?_, message, sent, carries⟩
        rw [carries offset small, carriesAgain offset small]
      · rw [inSynchrony] at silent
        cases silent
    · rw [inSynchrony] at silent
      cases silent
  · intro either member
    have source := List.mem_pair.mp member
    rcases source with rfl | rfl
    · exact (holds action inside third player there).imp_right And.right
    · exact (otherHolds action inside third player there).imp_right And.right

/-- The frames of the two players in synchrony, for their first calls. -/
theorem frames_agree_trio : ∃ (turn later : Turn) (frame second : Bytes),
    (trio.returns 1 2)[0]? = some turn ∧ (trio.returns 1 3)[0]? = some later ∧
    turn.frames = [⟨2, .game 1 (.data frame)⟩] ∧
    later.frames = [⟨3, .game 1 (.data second)⟩] ∧ second.length = frame.length := by
  have reached : trio.Reached := ⟨_, _, _, _, _, _, rfl⟩
  have uniform : trio.Uniform 1 1 1 := by
    unfold Uniform
    decide
  have place : (trio.game.roundQueues 1)[1]? = some _ := rfl
  have otherPlace : (trio.game.roundQueues 1)[2]? = some _ := rfl
  have ended : (trio.returns 1 2)[0]? = some _ := rfl
  have otherEnded : (trio.returns 1 3)[0]? = some _ := rfl
  obtain ⟨frame, second, sent, otherSent, -, length, -⟩ :=
    frames_agree reached uniform (by decide) place (by decide) otherPlace (by decide)
      ended rfl otherEnded rfl
  exact ⟨_, _, frame, second, ended, otherEnded, sent, otherSent, length⟩

/-- Two users play with two actions in each message. -/
def pair : Arena :=
  (fresh 1 "" { guest 1 with connectionType := 2 } {}
    ⟨[{ guest 1 with connectionType := 2 }, { guest 2 with connectionType := 2 }], []⟩).run
      [.join 1, .join 2, .start 1, .ready 1, .ready 2]

-- Why a member makes its next call only when the last one is over: two of its
-- calls at once share its reader, and the first takes an action of the second.
example :
    let twice := ((pair.room.addData 0 0 1 [1, 2]).1.addData 0 1 1 [3, 4]).1
    let answered := twice.addData 0 2 2 [17, 18]
    (answered.2.1 ++ (answered.1.run 0 2).2.1).filter (·.isFrame) =
      [⟨2, .game 1 (.data [1, 17, 2, 18])⟩, ⟨1, .game 1 (.data [1, 17, 3, 18])⟩] := by
  decide

end Arena

end Netplay
