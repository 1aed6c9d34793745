/-
Module: Netplay.Proofs.Chores
Purpose: Work on merges, one chore after the other: a merge is begun or taken off
  the lists, it reads queues and meets time-outs, and it is laid aside or comes to
  its end.
Main exports:
  Game.hear, Game.begin, Room.Chore, Room.Chores, Room.chores_addData,
  Room.chores_retry, Room.Chores.keeps
-/
import Netplay.Proofs.Conduct

namespace Netplay

/-- The merge once it has met another time-out. -/
def Merge.lapse (merge : Merge) : Merge := { merge with timeouts := merge.timeouts + 1 }

namespace Game

/-- The game after it heard a message of input.  A queue out of synchrony does not
take it in. -/
def hear (game : Game) (slot : Nat) (data : Bytes) : Game :=
  if game.queues[slot]?.any (·.synched) then (game.write slot data).wake game.round slot
  else game

/-- The merge that the message begins. -/
def begin (game : Game) (ticket : Nat) (user : UserId) (reader : UInt8) (data : Bytes) :
    Merge :=
  { ticket := ticket
    user := user
    round := game.round
    reader := reader
    actions := game.actionsPerMessage
    share := data.length / game.actionsPerMessage
    players := game.queues.length
    parts := []
    timeouts := 0 }

/-- A merge is parked behind those that already wait. -/
def park (game : Game) (merge : Merge) (deadline : Nat) : Game :=
  { game with waiting := game.waiting ++ [⟨merge, deadline⟩] }

/-- Merges with a ticket are taken off the lists. -/
def unpark (game : Game) (ticket : Nat) : Game :=
  { game with
    waiting := game.waiting.filter (·.merge.ticket ≠ ticket)
    woken := game.woken.filter (·.merge.ticket ≠ ticket) }

end Game

namespace Room

/-- One piece of work: what becomes of a game and of the merge in hand, if there is
one, and what is told.  Only messages are heard that have been sent. -/
inductive Chore (sent : UserId → Bytes → Prop) (people : Roster) :
    Game → Option Merge → List Letter → Game → Option Merge → Prop where
  /-- A message of input is heard, and its merge begins. -/
  | hear {game : Game} {user : UserId} {data : Bytes} {slot : Nat} (ticket : Nat)
      (said : sent user data) (on : game.synched = true)
      (seat : game.slotFor? (people.person user) = some slot) :
      Chore sent people game none [] (game.hear slot data)
        (some (game.begin ticket user (people.person user).player data))
  /-- A parked merge is taken off the lists. -/
  | take {game : Game} {parked : ParkedMerge} (flight : parked ∈ game.inFlight) :
      Chore sent people game none [] (game.unpark parked.merge.ticket) (some parked.merge)
  /-- The merge in hand reads its next share. -/
  | read {game : Game} {merge : Merge} {queue later : ActionQueue} {part : Bytes}
      {waited : Bool} (place : game.queueAt? merge.round merge.slot = some queue)
      (answered : queue.read merge.reader merge.share waited = .actions part later) :
      Chore sent people game (some merge) [] (game.setQueueAt merge.round merge.slot later)
        (some (merge.take part))
  /-- It meets a time-out, which is noted. -/
  | lapse {game : Game} {merge : Merge} {queue : ActionQueue}
      (place : game.queueAt? merge.round merge.slot = some queue) :
      Chore sent people game (some merge)
        (noteTimeout ⟨game, people⟩ ⟨queue.player, queue.user, merge.timeouts + 1⟩).2
        (noteTimeout ⟨game, people⟩ ⟨queue.player, queue.user, merge.timeouts + 1⟩).1.game
        (some merge.lapse)
  /-- It is laid aside. -/
  | park {game : Game} {merge : Merge} (deadline : Nat) :
      Chore sent people game (some merge) [] (game.park merge deadline) none
  /-- It is complete, and its frame goes to its sender. -/
  | finish {game : Game} {merge : Merge} (on : game.synched = true) :
      Chore sent people game (some merge)
        [⟨merge.user, .game game.id (.data merge.frame)⟩] game none
  /-- It fails. -/
  | fail {game : Game} {merge : Merge} : Chore sent people game (some merge) [] game none

/-- A chore is work on merges. -/
theorem Chore.works {sent : UserId → Bytes → Prop} {people : Roster} {game after : Game}
    {hand last : Option Merge} {letters : List Letter}
    (chore : Chore sent people game hand letters after last) : game.Works after := by
  cases chore with
  | @hear user data slot ticket said on seat =>
      have some : game.queues ≠ [] := Game.queues_ne_nil_of_slotFor? seat
      unfold Game.hear
      split
      · exact (Game.Works.write some _ data).trans (.of_dims (Game.dims_wake ..))
      · exact .refl game
  | take flight => exact .lists game _ _
  | read place answered => exact .setQueueAt place (.read answered)
  | lapse place => exact .of_dims (noteTimeout_dims ⟨game, people⟩ _).1
  | park deadline => exact .lists game _ _
  | finish on => exact .refl game
  | fail => exact .refl game

/-- A row of chores, with what is told. -/
inductive Chores (sent : UserId → Bytes → Prop) (people : Roster) :
    Game → Option Merge → List Letter → Game → Option Merge → Prop where
  | done (game : Game) (hand : Option Merge) : Chores sent people game hand [] game hand
  | more {game middle after : Game} {hand next last : Option Merge} {letters rest : List Letter}
      (first : Chore sent people game hand letters middle next)
      (others : Chores sent people middle next rest after last) :
      Chores sent people game hand (letters ++ rest) after last

namespace Chores

variable {sent : UserId → Bytes → Prop} {people : Roster} {game after : Game}
  {hand last : Option Merge} {letters : List Letter}

theorem one (chore : Chore sent people game hand letters after last) :
    Chores sent people game hand letters after last := by
  have row : Chores sent people game hand (letters ++ []) after last :=
    .more chore (.done after last)
  rwa [List.append_nil] at row

/-- What every chore keeps, a row of chores keeps. -/
theorem keeps (holds : Game → Option Merge → Prop)
    (each : ∀ {game hand letters after last}, Chore sent people game hand letters after last →
      holds game hand → holds after last)
    (row : Chores sent people game hand letters after last) (before : holds game hand) :
    holds after last := by
  induction row with
  | done game hand => exact before
  | more first _ inductionHypothesis => exact inductionHypothesis (each first before)

theorem works (row : Chores sent people game hand letters after last) : game.Works after := by
  induction row with
  | done game hand => exact .refl game
  | more first _ inductionHypothesis => exact first.works.trans inductionHypothesis

end Chores

variable (room : Room) (sent : UserId → Bytes → Prop)

/-- Collecting shares is a row of chores, after which no merge is in hand. -/
theorem chores_collect (now : Nat) (merge : Merge) (remaining : Nat) :
    Chores sent room.people room.game (some merge) (room.collect now merge remaining).2.1
      (room.collect now merge remaining).1.game none := by
  induction remaining generalizing room merge with
  | zero =>
      unfold collect
      split
      · exact .one .fail
      · rename_i merging
        exact .one (.finish (by simpa using merging))
  | succ remaining inductionHypothesis =>
      unfold collect
      split
      · exact .one .fail
      · split
        · exact .one (.park now)
        · rename_i queue place
          split
          · rename_i part later answered
            exact .more (.read place answered) (inductionHypothesis
              { room with game := room.game.setQueueAt merge.round merge.slot later }
              (merge.take part))
          · exact .one (.park now)
          · exact .one (.park _)

/-- So is retrying a merge that has been taken off the lists. -/
theorem chores_resume (now : Nat) (parked : ParkedMerge) :
    Chores sent room.people room.game (some parked.merge) (room.resume now parked).2.1
      (room.resume now parked).1.game none := by
  have lapsed {queue : ActionQueue}
      (place : room.game.queueAt? parked.merge.round parked.merge.slot = some queue) :
      Chores sent room.people room.game (some parked.merge)
        ((room.noteTimeout ⟨queue.player, queue.user, parked.merge.timeouts + 1⟩).2 ++
          ((room.noteTimeout ⟨queue.player, queue.user, parked.merge.timeouts + 1⟩).1.collect
            now parked.merge.lapse parked.merge.lapse.remaining).2.1)
        ((room.noteTimeout ⟨queue.player, queue.user, parked.merge.timeouts + 1⟩).1.collect
          now parked.merge.lapse parked.merge.lapse.remaining).1.game none := by
    refine .more (.lapse place) ?_
    have people := (room.noteTimeout_dims
      ⟨queue.player, queue.user, parked.merge.timeouts + 1⟩).2
    have goesOn := chores_collect
      (room.noteTimeout ⟨queue.player, queue.user, parked.merge.timeouts + 1⟩).1 sent now
      parked.merge.lapse parked.merge.lapse.remaining
    rwa [people] at goesOn
  unfold resume
  simp only
  split
  · exact .one .fail
  · rename_i queue place
    split
    · rename_i part later answered
      exact .more (.read place answered) (chores_collect
        { room with
          game := room.game.setQueueAt parked.merge.round parked.merge.slot later } sent now
        _ _)
    · exact lapsed place
    · split
      · exact lapsed place
      · exact .one (.park _)

/-- So is retrying a merge in flight. -/
theorem chores_retry {parked : ParkedMerge} (flight : parked ∈ room.game.inFlight) (now : Nat) :
    Chores sent room.people room.game none
      ((room.unpark parked.merge.ticket).resume now parked).2.1
      ((room.unpark parked.merge.ticket).resume now parked).1.game none :=
  .more (.take flight) (chores_resume (room.unpark parked.merge.ticket) sent now parked)

/-- And so is taking in a message of input. -/
theorem chores_addData (now ticket : Nat) {id : UserId} {data : Bytes} (said : sent id data) :
    Chores sent room.people room.game none (room.addData now ticket id data).2.1
      (room.addData now ticket id data).1.game none := by
  unfold addData
  simp only
  split
  · exact .done _ _
  · rename_i merging
    split
    · exact .done _ _
    · rename_i slot seat
      split
      · exact .done _ _
      · split
        · exact .done _ _
        · exact .more (.hear ticket said (by simpa using merging) seat)
            (chores_collect { room with game := room.game.hear slot data } sent now
              (room.game.begin ticket id (room.people.person id).player data) _)

end Room

end Netplay
