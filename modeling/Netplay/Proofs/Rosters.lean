/-
Module: Netplay.Proofs.Rosters
Purpose: What stays of the entries of users through everything that happens in
  games.
Main exports:
  Roster.Agrees, User.OffSeat, User.Lasting, Room.Plays.agrees, Room.agrees_join,
  Room.agrees_left, Lobby.Left.agrees, Lobby.agrees_leave, Lobby.quit_people,
  Lobby.ids_quitAll
-/
import Netplay.Proofs.LobbyConduct

namespace Netplay

/-- An entry shows neither the player number of a user nor its status. -/
def User.OffSeat {α : Type} (entry : User → α) : Prop :=
  ∀ (user : User) (player : UInt8) (status : UserStatus),
    entry { user with player := player, status := status } = entry user

/-- An entry shows nothing of a user that changes in a game. -/
def User.Lasting {α : Type} (entry : User → α) : Prop :=
  ∀ (user : User) (game : Option GameId) (player : UInt8) (status : UserStatus),
    entry { user with game := game, player := player, status := status } = entry user

theorem User.Lasting.offSeat {α : Type} {entry : User → α} (lasting : User.Lasting entry) :
    User.OffSeat entry :=
  fun user player status => lasting user user.game player status

/-- Two rosters have the same entries, in the same places. -/
structure Roster.Agrees {α : Type} (entry : User → α) (people after : Roster) : Prop where
  present : after.present.map entry = people.present.map entry
  departed : after.departed.map entry = people.departed.map entry

namespace Roster.Agrees

variable {α : Type} {entry : User → α} {people after last : Roster}

theorem refl (people : Roster) : Agrees entry people people := ⟨rfl, rfl⟩

theorem of_eq (same : after = people) : Agrees entry people after :=
  same ▸ refl after

theorem trans (one : Agrees entry people after) (two : Agrees entry after last) :
    Agrees entry people last :=
  ⟨two.present.trans one.present, two.departed.trans one.departed⟩

/-- A change that an entry does not show. -/
theorem update {change : User → User} (same : ∀ user, entry (change user) = entry user)
    (people : Roster) (id : UserId) : Agrees entry people (people.update id change) := by
  unfold Roster.update
  split
  · refine ⟨?_, rfl⟩
    rw [List.map_map]
    refine List.map_congr_left fun user _ => ?_
    simp only [Function.comp_apply]
    split
    · exact same user
    · rfl
  · refine ⟨rfl, List.ext_getElem? fun place => ?_⟩
    rw [List.getElem?_map, List.getElem?_map, List.getElem?_modify, Option.map_eq_map,
      Option.map_map]
    refine congrArg (Option.map · _) (funext fun user => ?_)
    simp only [Function.comp_apply]
    split
    · exact same user
    · rfl

/-- Changes one after the other. -/
theorem foldl {β : Type} {step : Roster → β → Roster}
    (same : ∀ people item, Agrees entry people (step people item)) (items : List β)
    (people : Roster) : Agrees entry people (items.foldl step people) := by
  induction items generalizing people with
  | nil => exact refl people
  | cons first rest inductionHypothesis =>
      exact (same people first).trans (inductionHypothesis _)

theorem numberPlayers {change : UInt8 → User → User}
    (same : ∀ player user, entry (change player user) = entry user) (people : Roster)
    (members : List UserId) :
    Agrees entry people (Room.numberPlayers people members change) := by
  unfold Room.numberPlayers
  exact foldl (fun people (item : UserId × Nat) => update (same _) people item.1) _ people

theorem dismissed (lasting : User.Lasting entry) (people : Roster) (members : List UserId) :
    Agrees entry people (Room.dismissed people members) :=
  foldl (fun people member => update (fun user => lasting user none 0 .idle) people member) _
    people

end Roster.Agrees

open Roster (Agrees)

/-! ## Games -/

namespace Room

variable {α : Type} {entry : User → α} {room after : Room} {mayRejoin : Prop}

theorem Plays.agrees (offSeat : User.OffSeat entry) (plays : room.Plays mayRejoin after) :
    Agrees entry room.people after.people := by
  cases plays with
  | start owner waiting someone =>
      exact .numberPlayers (fun player user => offSeat user player .playing) _ _
  | ready member gathering seat next rejoins => exact .refl _
  | drop member on seat =>
      have rested : ∀ id, Agrees entry room.people (room.rested id) := fun id =>
        .update (fun user => offSeat user user.player .idle) _ id
      unfold bench
      split
      · exact rested _
      · exact rested _
  | work works => exact .of_eq works.people

theorem agrees_joined (lasting : User.Lasting entry) (room : Room) (id : UserId) :
    Agrees entry room.people (room.joined id).people :=
  .update (fun user => lasting user (some room.game.id) _ user.status) _ id

theorem agrees_left (lasting : User.Lasting entry) (room : Room) (id : UserId) :
    Agrees entry room.people (room.left id).people := by
  have shed : room.Plays True (room.shed id) := plays_shed id
  have gone : Agrees entry (room.shed id).people
      ((room.shed id).people.update id (·.leaveGame)) :=
    .update (fun user => lasting user none 0 .idle) _ id
  refine (shed.agrees lasting.offSeat).trans ?_
  unfold left without
  simp only
  split
  · exact gone.trans
      (.numberPlayers (fun player user => lasting.offSeat user player user.status) _ _)
  · exact gone

theorem agrees_join (lasting : User.Lasting entry) (room : Room) (id : UserId) :
    Agrees entry room.people (room.join id).state.people := by
  rcases room.join_cases id with ⟨refused, -⟩ | ⟨-, -, -, -, makes⟩
  · rw [refused.state]
    exact .refl _
  · rw [makes.state]
    exact agrees_joined lasting room id

end Room

/-! ## The lobby -/

namespace Lobby

variable {α : Type} {entry : User → α} {lobby after : Lobby} {id : UserId}

theorem Left.agrees (lasting : User.Lasting entry) {game : Game}
    (left : lobby.Left id game after) : Agrees entry lobby.people after.people := by
  cases left with
  | stays guest => exact Room.agrees_left lasting (lobby.room game) id
  | closes owner room kept =>
      subst room
      have gone : Agrees entry lobby.people ((lobby.room game).left id).people :=
        Room.agrees_left lasting (lobby.room game) id
      exact gone.trans (.dismissed lasting _ _)

theorem agrees_leave (lasting : User.Lasting entry) (lobby : Lobby) (user : User) :
    Agrees entry lobby.people (lobby.leave user).state.people := by
  by_cases stranger : ∀ game, lobby.gameOf? user = .ok game → user.id ∉ game.members
  · rcases leave_stranger stranger with refused | ⟨game, -, refused⟩
    · rw [refused.state]
      exact .refl _
    · rw [refused.state]
      exact .refl _
  · simp only [not_forall, not_not] at stranger
    obtain ⟨game, found, member⟩ := stranger
    exact (leave_left found member).agrees lasting

/-- Whoever quits leaves the relay, and leaving its game changes no entry. -/
theorem quit_people (lasting : User.Lasting entry) (lobby : Lobby) (id : UserId)
    (message : String) :
    lobby.people.registered? id = none ∧ lobby.quit id message = .refuse lobby (.userNotFound id) ∨
      ∃ user ∈ lobby.people.present, user.id = id ∧
        Agrees entry (lobby.people.depart user) (lobby.quit id message).state.people := by
  unfold quit
  split
  · rename_i unknown
    exact .inl ⟨unknown, rfl⟩
  · rename_i user known
    obtain ⟨registered, number⟩ := Roster.registered?_eq_some known
    refine .inr ⟨user, registered, number, ?_⟩
    simp only [Step.done]
    split
    · exact agrees_leave lasting { lobby with people := lobby.people.depart user } user
    · exact .refl _

/-- The numbers of those who stay when someone quits. -/
theorem ids_quit (lobby : Lobby) (id : UserId) (message : String) :
    (lobby.quit id message).state.people.present.map (·.id) =
      (lobby.people.present.map (·.id)).filter (· ≠ id) := by
  have lasting : User.Lasting (·.id) := fun _ _ _ _ => rfl
  rcases lobby.quit_people lasting id message with
    ⟨unknown, refused⟩ | ⟨user, -, rfl, agrees⟩
  · rw [refused]
    refine (List.filter_eq_self.mpr fun other member => ?_).symm
    obtain ⟨user, registered, rfl⟩ := List.mem_map.mp member
    have differs := List.find?_eq_none.mp unknown user registered
    simpa using differs
  · rw [agrees.present, Roster.depart, List.filter_map]
    rfl

/-- The numbers of those who stay when several quit. -/
theorem ids_quitAll (lobby : Lobby) (message : String) (ids : List UserId) :
    (lobby.quitAll message ids).1.people.present.map (·.id) =
      (lobby.people.present.map (·.id)).filter (· ∉ ids) := by
  induction ids generalizing lobby with
  | nil => simp [quitAll]
  | cons first rest inductionHypothesis =>
      have others := inductionHypothesis (lobby.quit first message).state
      rw [ids_quit, List.filter_filter] at others
      refine others.trans (List.filter_congr fun id _ => ?_)
      simp [not_or, Bool.and_comm]

end Lobby

end Netplay
