/-
Module: Netplay.Proofs.Closing
Purpose: Nobody is in a closed game, no input is merged in it, and it is kept only as long
  as a merge is in flight.
Main exports:
  Game.Closed, Lobby.Shuttered, Lobby.Shuttered.leave, Venue.shuttered_step,
  Venue.shuttered_run
-/
import Netplay.Proofs.Deeds

namespace Netplay

/-- Nobody is in the game, no input is merged in it, and a merge is in flight. -/
structure Game.Closed (game : Game) : Prop where
  nobody : game.members = []
  idle : game.synched = false
  busy : game.inFlight ≠ []

namespace Lobby

/-- Every closed game is. -/
def Shuttered (lobby : Lobby) : Prop := ∀ game ∈ lobby.closed, game.Closed

variable {lobby : Lobby} {game : Game} {room : Room} {α : Type}

/-- No two games get one number in a row of strokes. -/
theorem Strokes.nodup {may : Room.Deed → Prop} {founds : Prop} {lobby after : Lobby}
    {letters : List Letter} (row : Strokes may founds lobby letters after)
    (nodup : (lobby.allGames.map (·.id)).Nodup) : (after.allGames.map (·.id)).Nodup := by
  induction row with
  | done => exact nodup
  | more first _ inductionHypothesis => exact inductionHypothesis (first.nodup nodup)

/-- The number of a live game is that of no closed one. -/
theorem closed_apart (nodup : (lobby.allGames.map (·.id)).Nodup) (live : game ∈ lobby.games)
    {other : Game} (closed : other ∈ lobby.closed) : other.id ≠ game.id := by
  intro same
  rw [allGames, List.map_append] at nodup
  exact (List.nodup_append.mp nodup).2.2 game.id (List.mem_map.mpr ⟨game, live, rfl⟩) other.id
    (List.mem_map.mpr ⟨other, closed, rfl⟩) same.symm

namespace Shuttered

/-- Something happens in a game, which stays closed if it is. -/
theorem withRoom (shuttered : lobby.Shuttered)
    (kept : ∀ game ∈ lobby.closed, game.id = room.game.id →
      room.game.members = [] ∧ room.game.synched = false) :
    (lobby.withRoom room).Shuttered := by
  intro game member
  obtain ⟨among, busy⟩ := List.mem_filter.mp member
  obtain ⟨before, closed, rfl⟩ := List.mem_map.mp among
  split at busy
  · rename_i same
    rw [if_pos same]
    obtain ⟨nobody, idle⟩ := kept before closed same
    exact ⟨nobody, idle, of_decide_eq_true busy⟩
  · rename_i differs
    rw [if_neg differs]
    exact shuttered before closed

/-- Something happens in a live game. -/
theorem live (shuttered : lobby.Shuttered) (nodup : (lobby.allGames.map (·.id)).Nodup)
    (live : game ∈ lobby.games) (number : room.game.id = game.id) :
    (lobby.withRoom room).Shuttered :=
  shuttered.withRoom fun _ closed same =>
    absurd (same.trans number) (closed_apart nodup live closed)

theorem play (shuttered : lobby.Shuttered) (nodup : (lobby.allGames.map (·.id)).Nodup)
    (live : game ∈ lobby.games) {step : Step Room α} (number : step.state.game.id = game.id) :
    (lobby.play step).state.Shuttered :=
  shuttered.live nodup live number

theorem playAndTell (shuttered : lobby.Shuttered) (nodup : (lobby.allGames.map (·.id)).Nodup)
    (live : game ∈ lobby.games) {step : Step Room α} {announce : α → Bool}
    (number : step.state.game.id = game.id) :
    (lobby.playAndTell step announce).state.Shuttered := by
  rw [(lobby.playAndTell_eq step announce).1]
  exact shuttered.play nodup live number

/-- A game is closed. -/
theorem closeGame (shuttered : lobby.Shuttered) (nodup : (lobby.allGames.map (·.id)).Nodup)
    (live : game ∈ lobby.games) (owner : UserId) :
    (lobby.closeGame game owner).state.Shuttered := by
  unfold Lobby.closeGame
  rcases (lobby.room game).close_cases owner with
    ⟨refused, -⟩ | ⟨silent, -, -, -, off, makes⟩
  · obtain ⟨refusal, failed⟩ := refused.result
    simp only [failed]
    exact shuttered.live nodup live
      (@Room.turn_perform (lobby.room game) (.close owner) trivial).number
  · obtain ⟨value, done⟩ := makes.result
    obtain ⟨_, _, frame⟩ := Game.endRound_frame { silent with members := [] }
    simp only [done, Step.done]
    split
    · exact shuttered
    · rename_i busy
      intro other member
      rcases List.mem_append.mp member with before | last
      · exact shuttered other before
      · rw [List.mem_singleton.mp last]
        rw [makes.state] at busy ⊢
        refine ⟨?_, ?_, busy⟩
        · rw [frame]
        · rw [frame]
          exact off

/-- A user leaves its game, which its owner closes with it. -/
theorem leave (shuttered : lobby.Shuttered) (nodup : (lobby.allGames.map (·.id)).Nodup)
    (user : User) : (lobby.leave user).state.Shuttered := by
  unfold Lobby.leave
  split
  · exact shuttered
  · rename_i game found
    have live := (gameOf?_eq_ok found).2
    have number := (@Room.turn_perform (lobby.room game) (.quit user.id) trivial).number
    have parted := shuttered.play nodup live number
    split
    · simp only
      split
      · exact parted
      · split
        · exact parted
        · rename_i remaining still
          exact parted.closeGame ((Retains.withRoom lobby _).nodup nodup)
            (game?_eq_some still).1 user.id
    · exact shuttered.playAndTell nodup live number

/-- A user leaves the relay. -/
theorem quit (shuttered : lobby.Shuttered) (nodup : (lobby.allGames.map (·.id)).Nodup)
    (id : UserId) (message : String) : (lobby.quit id message).state.Shuttered := by
  unfold Lobby.quit
  split
  · exact shuttered
  · rename_i user _
    have gone : Shuttered { lobby with people := lobby.people.depart user } := shuttered
    simp only [Step.done]
    split
    · exact gone.leave nodup user
    · exact gone

theorem quitAll (shuttered : lobby.Shuttered) (nodup : (lobby.allGames.map (·.id)).Nodup)
    (message : String) (ids : List UserId) : (lobby.quitAll message ids).1.Shuttered := by
  induction ids generalizing lobby with
  | nil => exact shuttered
  | cons first rest inductionHypothesis =>
      have row : Strokes Parting False lobby _ _ :=
        strokes_quit lobby first message fun _ parting => parting
      exact inductionHypothesis (shuttered.quit nodup first message) (row.nodup nodup)

theorem login (shuttered : lobby.Shuttered) (nodup : (lobby.allGames.map (·.id)).Nodup)
    (id : UserId) : (lobby.login id).state.Shuttered := by
  unfold Lobby.login
  split
  · exact shuttered
  · split
    · exact shuttered
    · split
      · exact shuttered
      · split
        · exact shuttered
        · exact shuttered.quitAll nodup "Reconnected" _

theorem kick (shuttered : lobby.Shuttered) (nodup : (lobby.allGames.map (·.id)).Nodup)
    (id target : UserId) : (lobby.kick id target).state.Shuttered := by
  unfold Lobby.kick
  split
  · exact shuttered
  · rename_i user game player
    have live := player?_eq_ok player
    have number := (@Room.turn_perform (lobby.room game) (.bar id target) trivial).number
    have barred := shuttered.play nodup live number
    have still :
        ((lobby.play ((lobby.room game).kick id target)).state.allGames.map (·.id)).Nodup :=
      (Retains.withRoom lobby _).nodup nodup
    simp only
    split
    · exact barred
    · exact barred.leave still _

theorem joinGame (shuttered : lobby.Shuttered) (nodup : (lobby.allGames.map (·.id)).Nodup)
    (id : UserId) (target : GameId) : (lobby.joinGame id target).state.Shuttered := by
  unfold Lobby.joinGame
  split
  · exact shuttered
  · split
    · exact shuttered
    · split
      · exact shuttered
      · rename_i game found
        exact shuttered.playAndTell nodup (game?_eq_some found).1
          (@Room.turn_perform (lobby.room game) (.join id) trivial).number

theorem createGame (shuttered : lobby.Shuttered) (nodup : (lobby.allGames.map (·.id)).Nodup)
    (id : UserId) (name : String) : (lobby.createGame id name).state.Shuttered := by
  rcases lobby.createGame_cases id name with refused | ⟨user, -, -, -, -, -, made⟩
  · rwa [refused.state]
  · have founded : (lobby.withFounded user name).Shuttered :=
      fun game member => shuttered game (List.mem_filter.mp member).1
    have live : lobby.founded user name ∈ (lobby.withFounded user name).games :=
      List.mem_append_right _ List.mem_cons_self
    rcases made with ⟨-, state⟩ | ⟨-, makes⟩
    · rw [state]
      exact founded.live (nodup_withFounded user name nodup) live rfl
    · rw [makes.state]
      exact founded.live (nodup_withFounded user name nodup) live rfl

end Shuttered

end Lobby

namespace Venue

open Lobby (Shuttered)

variable {settings : Settings} {venue : Venue}

/-- Every move keeps closed games closed. -/
theorem shuttered_step (shuttered : venue.lobby.Shuttered)
    (nodup : (venue.lobby.allGames.map (·.id)).Nodup) (move : Move) :
    (venue.step move).lobby.Shuttered := by
  -- Whatever is done in the live game of a user leaves the game its number.
  have told {id : UserId} {user : User} {game : Game}
      (player : venue.lobby.player? id = .ok (user, game)) {α : Type} {step : Step Room α}
      {announce : α → Bool} (number : step.state.game.id = game.id) :
      (venue.lobby.playAndTell step announce).state.Shuttered :=
    shuttered.playAndTell nodup (Lobby.player?_eq_ok player) number
  cases move with
  | connect address protocol =>
      rw [step, Lobby.connect]
      split
      · exact shuttered
      · split
        · exact shuttered
        · exact shuttered
  | login user => exact shuttered.login nodup user
  | quit user message => exact shuttered.quit nodup user message
  | chat user message =>
      rw [step, Lobby.chat]
      split
      · exact shuttered
      · split
        · exact shuttered
        · exact shuttered
  | create user name => exact shuttered.createGame nodup user name
  | join user game => exact shuttered.joinGame nodup user game
  | leave user =>
      rw [step, Lobby.quitGame]
      split
      · exact shuttered
      · exact shuttered.leave nodup _
  | start user =>
      rw [step, Lobby.startGame]
      split
      · exact shuttered
      · rename_i person game player
        exact told player (@Room.turn_perform (venue.lobby.room game) (.start user) trivial).number
  | ready user =>
      rw [step, Lobby.ready]
      split
      · exact shuttered
      · rename_i person game player
        exact told player (@Room.turn_perform (venue.lobby.room game) (.ready user) trivial).number
  | drop user =>
      rw [step, Lobby.dropGame]
      split
      · exact shuttered
      · rename_i person game player
        exact told player (@Room.turn_perform (venue.lobby.room game) (.drop user) trivial).number
  | kick user target => exact shuttered.kick nodup user target
  | gameChat user message =>
      rw [step, Lobby.gameChat]
      split
      · exact shuttered
      · rename_i person game player
        exact shuttered.play nodup (Lobby.player?_eq_ok player)
          (@Room.turn_perform (venue.lobby.room game) (.chat user message) trivial).number
  | gap user =>
      rw [step, Lobby.droppedPacket]
      split
      · exact shuttered
      · split
        · exact shuttered
        · rename_i game found
          exact shuttered.live nodup (Lobby.gameOf?_eq_ok found).2
            (@Room.turn_perform (venue.lobby.room game) (.gap user) trivial).number
  | input user data =>
      rw [step, input, Lobby.addGameData]
      split
      · exact shuttered
      · rename_i person game player
        have plays : (venue.lobby.room game).Plays True _ :=
          Room.plays_addData venue.now venue.nextTicket user data
        exact shuttered.live nodup (Lobby.player?_eq_ok player) plays.keeps.id
  | retry number ticket =>
      rw [step, retry]
      split
      · exact shuttered
      · rename_i game found
        split
        · exact shuttered
        · rename_i parked waits
          split
          · have works := @Room.works_retry (venue.lobby.room game) venue.now ticket parked
            have keeps := Game.Keeps.of_works works.game
            refine shuttered.withRoom fun other closed same => ?_
            have itself : other = game := List.inj_on_of_nodup_map nodup
              (List.mem_append_right _ closed) (List.mem_of_find?_eq_some found)
              (same.trans keeps.id)
            obtain ⟨nobody, idle, -⟩ := shuttered other closed
            rw [itself] at nobody idle
            refine ⟨keeps.members.trans nobody, ?_⟩
            exact Bool.eq_false_iff.mpr fun flag =>
              Bool.false_ne_true (idle.symm.trans (works.game.synched flag))
          · exact shuttered
  | introduce user name emulator connectionType => exact shuttered
  | measure user ping => exact shuttered
  | pass milliseconds => exact shuttered

/-- At every venue closed games are closed for good. -/
theorem shuttered_run (settings : Settings) (moves : List Move) :
    ((opened settings).run moves).lobby.Shuttered := by
  have run : ∀ venue : Venue, venue.lobby.Kept settings venue.created → venue.lobby.Shuttered →
      (venue.run moves).lobby.Shuttered := by
    induction moves with
    | nil => exact fun _ _ before => before
    | cons move rest inductionHypothesis =>
        intro venue kept before
        exact inductionHypothesis (venue.step move) (kept_step kept move)
          (shuttered_step before kept.nodup move)
  exact run (opened settings) (Lobby.kept_empty settings) fun game member => by cases member

end Venue

end Netplay
