/-
Module: Netplay.Proofs.SynchedPlay
Purpose: In a lobby, input is merged only in games that are played, and every
  queue in synchrony has a member, as long as no member that was dropped signals
  that it is ready.
Main exports:
  Game.custom_attended, Lobby.Played, Venue.Attentive, Venue.played_run,
  Venue.synched_run
-/
import Netplay.Proofs.Customs

namespace Netplay

/-! ## The games of a lobby -/

/-- As long as no dropped member gets ready, a game stays attended by its members. -/
theorem Game.custom_attended : Game.Custom False (fun _ => True) Game.Attended where
  created := fun number name owner settings people =>
    .of_waiting (Game.seated_create number name owner settings people) rfl rfl
  regard := fun attended known players statuses =>
    attended.regard (fun member here => (known member here).trans
      (attended.seated.known member here)) players statuses
  plays := fun attended plays => plays.attended attended
  barred := fun attended => attended.barred
  joined := fun _ _ attended new waiting space known _ =>
    Room.attended_joined attended new waiting space known
  left := fun _ => Room.attended_left

namespace Lobby

variable {lobby : Lobby}

/-- Nobody is a member of two live games, and every live game is attended by its
members. -/
structure Played (lobby : Lobby) : Prop where
  nodup : (lobby.allGames.map (·.id)).Nodup
  apart : ∀ game ∈ lobby.games, ∀ other ∈ lobby.games, ∀ member ∈ game.members,
    member ∈ other.members → game = other
  attended : ∀ game ∈ lobby.games, game.Attended lobby.people

/-- Lobbies in which every game is attended observe a custom. -/
theorem played_iff : lobby.Played ↔ lobby.Observes Game.Attended :=
  ⟨fun played => ⟨played.nodup, played.apart, played.attended⟩,
    fun observes => ⟨observes.nodup, observes.apart, observes.each⟩⟩

/-- A lobby without games. -/
theorem played_empty (settings : Settings) : (Lobby.empty settings).Played where
  nodup := List.nodup_nil
  apart := fun _ live => by cases live
  attended := fun _ live => by cases live

end Lobby

/-! ## Runs -/

namespace Venue

variable {settings : Settings} {venue : Venue}

/-- No member that was dropped signals that it is ready. -/
def Attentive (venue : Venue) : List Move → Prop
  | [] => True
  | move :: rest => ¬ venue.Rejoins move ∧ (venue.step move).Attentive rest

instance decidableAttentive : (venue : Venue) → (moves : List Move) →
    Decidable (venue.Attentive moves)
  | _, [] => inferInstanceAs (Decidable True)
  | venue, move :: rest =>
      have := decidableAttentive (venue.step move) rest
      inferInstanceAs (Decidable (_ ∧ _))

/-- Every move keeps live games attended. -/
theorem played_step (kept : venue.lobby.Kept settings venue.created)
    (played : venue.lobby.Played) {move : Move} (attentive : ¬ venue.Rejoins move) :
    (venue.step move).lobby.Played :=
  Lobby.played_iff.mpr (observes_step Game.custom_attended
    (Lobby.invariant_kept settings venue.created False)
    (fun _ kept => ⟨kept, fun _ _ _ => trivial⟩) kept (Lobby.played_iff.mp played) attentive)

/-- So does every run. -/
theorem played_run (kept : venue.lobby.Kept settings venue.created)
    (played : venue.lobby.Played) {moves : List Move} (attentive : venue.Attentive moves) :
    (venue.run moves).lobby.Played := by
  induction moves generalizing venue with
  | nil => exact played
  | cons move rest inductionHypothesis =>
      exact inductionHypothesis (kept_step kept move) (played_step kept played attentive.1)
        attentive.2

/-- As long as no member that was dropped signals that it is ready, input is
merged only in games that are played, and every queue in synchrony belongs to a
member. -/
theorem synched_run (settings : Settings) (moves : List Move)
    (attentive : (opened settings).Attentive moves) :
    ∀ game ∈ ((opened settings).run moves).lobby.games,
      (game.synched = true → game.status = .playing) ∧
        ∀ queue ∈ game.queues, queue.synched = true → queue.user ∈ game.members := by
  intro game live
  have opens : (opened settings).lobby.Kept settings (opened settings).created :=
    Lobby.kept_empty settings
  have played := played_run opens (Lobby.played_empty settings) attentive
  have attended := played.attended game live
  exact ⟨attended.played, fun queue member flag => (attended.manned queue member flag).1⟩

/-- Ada plays with Bo and Cy.  Cy is dropped after the round has started, and
does not signal that it is ready; Bo leaves in the middle of the round. -/
def quietRound : List Move :=
  arrival 1 "Ada" ++ arrival 2 "Bo" ++ arrival 3 "Cy" ++
    [.create 1 "trio", .join 2 1, .join 3 1, .start 1, .ready 1, .ready 2, .ready 3,
      .drop 3, .input 1 [1], .leave 2]

theorem synched_run_quietRound :
    (opened {}).Attentive quietRound ∧
      ((opened {}).run quietRound).lobby.games.map (·.members) = [[1, 3]] ∧
      ∀ game ∈ ((opened {}).run quietRound).lobby.games,
        (game.synched = true → game.status = .playing) ∧
          ∀ queue ∈ game.queues, queue.synched = true → queue.user ∈ game.members := by
  have attentive : (opened {}).Attentive quietRound := by decide +kernel
  exact ⟨attentive, by decide +kernel, synched_run {} quietRound attentive⟩

/-- Members that were dropped while the round gathered signal that they are
ready, the last of them together with the only one that plays.  Then that one is
dropped, too. -/
def lateSignal : List Move :=
  arrival 1 "Ada" ++ arrival 2 "Bo" ++ arrival 3 "Cy" ++
    [.create 1 "trio", .join 2 1, .join 3 1, .start 1, .drop 1, .ready 1, .drop 2, .ready 2,
      .ready 3, .drop 3]

/-- A member that was dropped signals that it is ready, and leaves. -/
def lateLeave : List Move :=
  arrival 1 "Ada" ++ arrival 2 "Bo" ++
    [.create 1 "duo", .join 2 1, .start 1, .drop 2, .ready 2, .leave 2, .ready 1]

/-- Where dropped members may signal that they are ready, a game that waits for
its next round may count as merging input, and the queue of a user that has left
may be in synchrony in a game that is played. -/
theorem synched_unattended :
    (∃ game ∈ ((opened {}).run lateSignal).lobby.games,
      game.synched = true ∧ game.status = .waiting) ∧
    ∃ game ∈ ((opened {}).run lateLeave).lobby.games,
      game.status = .playing ∧
        ∃ queue ∈ game.queues, queue.synched = true ∧ queue.user ∉ game.members := by
  decide +kernel

end Venue

end Netplay
