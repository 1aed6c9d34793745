/-
Module: Netplay.Proofs.Turnout
Purpose: Nothing that users do registers anybody: only a new connection does.
  And but for introductions and logins it changes of nobody more than where it
  plays.
Main exports:
  User.card, Roster.arrivals, Lobby.Thins, Lobby.thins_leave, Lobby.thins_quit, Lobby.thins_kick,
  Lobby.thins_createGame, Lobby.thins_addGameData, Lobby.turn_eq_some,
  Lobby.thins_turn, Lobby.connect_cases, Lobby.Shrinks, Lobby.shrinks_login,
  Venue.thins_step
-/
import Netplay.Proofs.Coherence
import Netplay.Session.Perform

namespace Netplay

open Roster (Agrees)

namespace User

/-- All of a user but where it plays. -/
def card (user : User) : User := { user with game := none, player := 0, status := .idle }

theorem lasting_card : Lasting card := fun _ _ _ _ => rfl

/-- What lasts can be read off the card. -/
theorem Lasting.of_card {α : Type} {entry : User → α} (lasting : Lasting entry) {one other : User}
    (same : one.card = other.card) : entry one = entry other :=
  ((lasting one none 0 .idle).symm.trans (congrArg entry same)).trans (lasting other none 0 .idle)

/-- The number of a user stays through everything that happens to it. -/
theorem lasting_id : Lasting (·.id) := fun _ _ _ _ => rfl

end User

namespace Roster

/-- How many users have come so far, those that have left among them. -/
def arrivals (people : Roster) : Nat := people.present.length + people.departed.length

theorem Agrees.arrivals {α : Type} {entry : User → α} {people after : Roster}
    (agrees : Agrees entry people after) : after.arrivals = people.arrivals := by
  have present := congrArg List.length agrees.present
  have departed := congrArg List.length agrees.departed
  rw [List.length_map, List.length_map] at present departed
  rw [Roster.arrivals, Roster.arrivals, present, departed]

/-- Who leaves has come. -/
theorem arrivals_depart {people : Roster} {user : User}
    (unique : (people.present.map (·.id)).Nodup) (member : user ∈ people.present) :
    (people.depart user).arrivals = people.arrivals := by
  have others := (perm_cons_filter unique member).length_eq
  rw [arrivals, arrivals, depart, ← others, List.length_cons, List.length_cons]
  exact (Nat.succ_add_eq_add_succ ..).symm

theorem arrivals_register (people : Roster) (user : User) :
    (people.register user).arrivals = people.arrivals + 1 := by
  rw [arrivals, arrivals, register, List.length_append, List.length_singleton]
  exact Nat.add_right_comm ..

end Roster

namespace Lobby

variable {lobby after last : Lobby} {α : Type}

/-- Those who play together stay who they are. -/
theorem sameCards_plays {game : Game} {room : Room} (plays : (lobby.room game).Plays True room) :
    Agrees User.card lobby.people room.people :=
  plays.agrees User.lasting_card.offSeat

/-- Nobody new is registered and nobody is forgotten, those who stay are the same but for
where they play, and the next number and the settings stay. -/
structure Thins (lobby after : Lobby) : Prop where
  cards : (after.people.present.map (·.card)).Sublist (lobby.people.present.map (·.card))
  counter : after.nextUser = lobby.nextUser
  server : after.server = lobby.server
  arrivals : (lobby.people.present.map (·.id)).Nodup →
    after.people.arrivals = lobby.people.arrivals

namespace Thins

/-- What cards tell is that of fewer users. -/
theorem sublist (thins : lobby.Thins after) {entry : User → α} (lasting : User.Lasting entry) :
    (after.people.present.map entry).Sublist (lobby.people.present.map entry) := by
  have read : ∀ users : List User, users.map entry = (users.map (·.card)).map entry := by
    intro users
    rw [List.map_map]
    exact List.map_congr_left fun user _ => (lasting user none 0 .idle).symm
  rw [read, read lobby.people.present]
  exact thins.cards.map entry

theorem refl (lobby : Lobby) : lobby.Thins lobby := ⟨.refl _, rfl, rfl, fun _ => rfl⟩

theorem trans (one : lobby.Thins after) (two : after.Thins last) : lobby.Thins last where
  cards := two.cards.trans one.cards
  counter := two.counter.trans one.counter
  server := two.server.trans one.server
  arrivals := fun unique =>
    (two.arrivals ((one.sublist User.lasting_id).nodup unique)).trans (one.arrivals unique)

/-- Entries change, but not who has one. -/
theorem people {people : Roster} (agrees : Agrees User.card lobby.people people) :
    lobby.Thins { lobby with people := people } :=
  ⟨agrees.present ▸ .refl _, rfl, rfl, fun _ => agrees.arrivals⟩

/-- Something happens in a game. -/
theorem withRoom {room : Room} (agrees : Agrees User.card lobby.people room.people) :
    lobby.Thins (lobby.withRoom room) :=
  ⟨agrees.present ▸ .refl _, rfl, rfl, fun _ => agrees.arrivals⟩

theorem playAndTell {step : Step Room α} (agrees : Agrees User.card lobby.people step.state.people)
    (announce : α → Bool) : lobby.Thins (lobby.playAndTell step announce).state := by
  rw [(playAndTell_eq lobby step announce).1]
  exact withRoom agrees

/-- A user leaves the relay. -/
theorem depart {user : User} (member : user ∈ lobby.people.present) :
    lobby.Thins { lobby with people := lobby.people.depart user } :=
  ⟨List.filter_sublist.map _, rfl, rfl, fun unique => Roster.arrivals_depart unique member⟩

end Thins

/-! ## Games -/

theorem thins_joinGame (lobby : Lobby) (id : UserId) (target : GameId) :
    lobby.Thins (lobby.joinGame id target).state := by
  unfold joinGame
  split
  · exact .refl lobby
  · split
    · exact .refl lobby
    · split
      · exact .refl lobby
      · exact .playAndTell (Room.agrees_join User.lasting_card (lobby.room _) id) _

theorem thins_createGame (lobby : Lobby) (id : UserId) (name : String) :
    lobby.Thins (lobby.createGame id name).state := by
  unfold createGame
  split
  · exact .refl lobby
  · split
    · exact .refl lobby
    · split
      · exact .refl lobby
      · rename_i user found free more
        have founded : lobby.Thins (lobby.withFounded user name) :=
          ⟨.refl _, rfl, rfl, fun _ => rfl⟩
        exact founded.trans (.playAndTell (Room.agrees_join User.lasting_card
          ((lobby.withFounded user name).room (lobby.founded user name)) id) _)

theorem thins_startGame (lobby : Lobby) (id : UserId) :
    lobby.Thins (lobby.startGame id).state := by
  unfold startGame
  split
  · exact .refl lobby
  · exact .playAndTell (sameCards_plays (Room.plays_start id)) _

theorem thins_ready (lobby : Lobby) (id : UserId) : lobby.Thins (lobby.ready id).state := by
  unfold ready
  split
  · exact .refl lobby
  · exact .playAndTell (sameCards_plays (Room.plays_ready fun _ => trivial)) _

theorem thins_dropGame (lobby : Lobby) (id : UserId) :
    lobby.Thins (lobby.dropGame id).state := by
  unfold dropGame
  split
  · exact .refl lobby
  · exact .playAndTell (sameCards_plays (Room.plays_drop id)) _

theorem thins_gameChat (lobby : Lobby) (id : UserId) (message : String) :
    lobby.Thins (lobby.gameChat id message).state := by
  unfold gameChat
  split
  · exact .refl lobby
  · exact .withRoom (sameCards_plays (Room.plays_chat id message))

theorem thins_chat (lobby : Lobby) (id : UserId) (message : String) :
    lobby.Thins (lobby.chat id message).state := by
  unfold chat
  split
  · exact .refl lobby
  · split
    · exact .refl lobby
    · exact .refl lobby

theorem thins_droppedPacket (lobby : Lobby) (id : UserId) :
    lobby.Thins (lobby.droppedPacket id).1 := by
  unfold droppedPacket
  split
  · exact .refl lobby
  · split
    · exact .refl lobby
    · exact .withRoom (sameCards_plays (Room.plays_droppedPacket id))

theorem thins_addGameData (lobby : Lobby) (now ticket : Nat) (id : UserId) (data : Bytes) :
    lobby.Thins (lobby.addGameData now ticket id data).1 := by
  unfold addGameData
  split
  · exact .refl lobby
  · exact .withRoom (sameCards_plays (Room.plays_addData now ticket id data))

/-- A member leaves a game. -/
theorem Left.thins {id : UserId} {game : Game} (left : lobby.Left id game after) :
    lobby.Thins after := by
  have agrees := left.agrees User.lasting_card
  refine ⟨agrees.present ▸ .refl _, ?_, ?_, fun _ => agrees.arrivals⟩
  · cases left with
    | stays guest => rfl
    | closes owner room kept =>
        subst room
        rfl
  · cases left with
    | stays guest => rfl
    | closes owner room kept =>
        subst room
        rfl

theorem thins_leave (lobby : Lobby) (user : User) : lobby.Thins (lobby.leave user).state := by
  by_cases stranger : ∀ game, lobby.gameOf? user = .ok game → user.id ∉ game.members
  · rcases leave_stranger stranger with refused | ⟨game, -, refused⟩
    · rw [refused.state]
      exact .refl lobby
    · rw [refused.state]
      exact .withRoom (.refl _)
  · simp only [not_forall, not_not] at stranger
    obtain ⟨game, found, member⟩ := stranger
    exact (leave_left found member).thins

theorem thins_quitGame (lobby : Lobby) (id : UserId) :
    lobby.Thins (lobby.quitGame id).state := by
  unfold quitGame
  split
  · exact .refl lobby
  · exact lobby.thins_leave _

theorem thins_kick (lobby : Lobby) (id target : UserId) :
    lobby.Thins (lobby.kick id target).state := by
  unfold kick
  split
  · exact .refl lobby
  · rename_i user game player
    have people : ((lobby.room game).kick id target).state.people = lobby.people := by
      rcases (lobby.room game).kick_cases id target with refused | ⟨kicked, -, -, -, -, makes⟩
      · rw [refused.state]
        rfl
      · rw [makes.state]
        rfl
    have barred : lobby.Thins (lobby.play ((lobby.room game).kick id target)).state :=
      .withRoom (.of_eq people)
    simp only
    split
    · exact barred
    · exact barred.trans (thins_leave _ _)

/-! ## Quitting -/

theorem thins_quit (lobby : Lobby) (id : UserId) (message : String) :
    lobby.Thins (lobby.quit id message).state := by
  unfold quit
  split
  · exact .refl lobby
  · rename_i user known
    have departs := Thins.depart (Roster.registered?_eq_some known).1
    simp only [Step.done]
    split
    · exact departs.trans (thins_leave _ user)
    · exact departs

theorem thins_quitAll (lobby : Lobby) (message : String) (ids : List UserId) :
    lobby.Thins (lobby.quitAll message ids).1 := by
  induction ids generalizing lobby with
  | nil => exact .refl lobby
  | cons first rest inductionHypothesis =>
      exact (lobby.thins_quit first message).trans (inductionHypothesis _)

/-! ## Merges -/

/-- What a lobby does of its own accord is to retry a merge in flight of one of its
games, live or closed. -/
theorem turn_eq_some {now : Nat} {letters : List Letter} {finished : Option Finished}
    (turns : lobby.turn now = some (after, letters, finished)) :
    ∃ game ∈ lobby.allGames, ∃ parked ∈ game.inFlight, after = lobby.withRoom
      (((lobby.room game).unpark parked.merge.ticket).resume now parked).1 := by
  unfold turn at turns
  generalize lobby.allGames = games at turns ⊢
  induction games with
  | nil => cases turns
  | cons game rest inductionHypothesis =>
      unfold turnAmong at turns
      split at turns
      · rename_i room told done proceeds
        obtain ⟨rfl, -⟩ := Prod.mk.inj (Option.some.inj turns)
        obtain ⟨parked, next, made⟩ := Option.map_eq_some_iff.mp proceeds
        refine ⟨game, List.mem_cons_self, parked, (Room.next?_eq_some next).1,
          congrArg lobby.withRoom ?_⟩
        simp only at made
        split at made
        · exact (congrArg Prod.fst made).symm
        · exact (congrArg Prod.fst made).symm
      · obtain ⟨other, member, retried⟩ := inductionHypothesis turns
        exact ⟨other, List.mem_cons_of_mem _ member, retried⟩

theorem thins_turn {now : Nat} {letters : List Letter} {finished : Option Finished}
    (turns : lobby.turn now = some (after, letters, finished)) : lobby.Thins after := by
  obtain ⟨game, -, parked, -, rfl⟩ := turn_eq_some turns
  exact .withRoom (.of_eq (Room.works_retry now parked.merge.ticket parked).people)

/-! ## Who is registered -/

/-- A connection is refused, or a user is registered for it under the first free
number. -/
theorem connect_cases (lobby : Lobby) (address : Address) (protocol : String) :
    (∃ refusal, lobby.connect address protocol = .refuse lobby refusal) ∨
      ∃ id counter, lobby.people.present.length < lobby.server.maxUsers ∧
        UserId.firstFree (lobby.people.present.map (·.id)) 65537 lobby.nextUser =
          some (id, counter) ∧
        lobby.connect address protocol =
          .done { lobby with
            nextUser := counter
            people := lobby.people.register (User.connecting id address protocol) } [] id := by
  unfold connect
  split
  · exact .inl ⟨_, rfl⟩
  · rename_i space
    split
    · exact .inl ⟨_, rfl⟩
    · rename_i id counter found
      exact .inr ⟨id, counter, Nat.lt_of_not_le space, found, rfl⟩

theorem server_connect (lobby : Lobby) (address : Address) (protocol : String) :
    (lobby.connect address protocol).state.server = lobby.server := by
  rcases lobby.connect_cases address protocol with
    ⟨refusal, refused⟩ | ⟨id, counter, -, -, connected⟩
  · rw [refused]
    rfl
  · rw [connected]
    rfl

/-- Nobody new is registered and nobody is forgotten, and the next number and the settings
stay. -/
structure Shrinks (lobby after : Lobby) : Prop where
  ids : (after.people.present.map (·.id)).Sublist (lobby.people.present.map (·.id))
  counter : after.nextUser = lobby.nextUser
  server : after.server = lobby.server
  arrivals : (lobby.people.present.map (·.id)).Nodup →
    after.people.arrivals = lobby.people.arrivals

theorem Thins.shrinks (thins : lobby.Thins after) : lobby.Shrinks after :=
  ⟨thins.sublist User.lasting_id, thins.counter, thins.server, thins.arrivals⟩

namespace Shrinks

theorem refl (lobby : Lobby) : lobby.Shrinks lobby := ⟨.refl _, rfl, rfl, fun _ => rfl⟩

theorem trans (one : lobby.Shrinks after) (two : after.Shrinks last) : lobby.Shrinks last where
  ids := two.ids.trans one.ids
  counter := two.counter.trans one.counter
  server := two.server.trans one.server
  arrivals := fun unique =>
    (two.arrivals (one.ids.nodup unique)).trans (one.arrivals unique)

/-- Entries change, but not who has one. -/
theorem people {people : Roster} (agrees : Agrees (·.id) lobby.people people) :
    lobby.Shrinks { lobby with people := people } :=
  ⟨agrees.present ▸ .refl _, rfl, rfl, fun _ => agrees.arrivals⟩

end Shrinks

theorem shrinks_login (lobby : Lobby) (id : UserId) : lobby.Shrinks (lobby.login id).state := by
  unfold login
  split
  · exact .refl lobby
  · split
    · exact .refl lobby
    · split
      · exact .refl lobby
      · split
        · exact .refl lobby
        · exact (lobby.thins_quitAll "Reconnected" _).shrinks.trans
            (.people (.update (fun user => show user.logIn.id = user.id from rfl) _ id))

end Lobby

/-! ## Moves -/

namespace Venue

/-- The move is about no coming, no introduction and no login. -/
def Move.Plain : Move → Prop
  | .connect _ _ => False
  | .introduce _ _ _ _ => False
  | .measure _ _ => False
  | .login _ => False
  | _ => True

/-- Such a move makes nobody another. -/
theorem thins_step (venue : Venue) {move : Move} (plain : move.Plain) :
    venue.lobby.Thins (venue.step move).lobby := by
  cases move with
  | quit user message => exact venue.lobby.thins_quit user message
  | chat user message => exact venue.lobby.thins_chat user message
  | create user name => exact venue.lobby.thins_createGame user name
  | join user game => exact venue.lobby.thins_joinGame user game
  | leave user => exact venue.lobby.thins_quitGame user
  | start user => exact venue.lobby.thins_startGame user
  | ready user => exact venue.lobby.thins_ready user
  | drop user => exact venue.lobby.thins_dropGame user
  | kick user target => exact venue.lobby.thins_kick user target
  | gameChat user message => exact venue.lobby.thins_gameChat user message
  | gap user => exact venue.lobby.thins_droppedPacket user
  | input user data => exact venue.lobby.thins_addGameData venue.now venue.nextTicket user data
  | retry game ticket =>
      rw [step, retry]
      split
      · exact .refl _
      · split
        · exact .refl _
        · rename_i parked waits
          split
          · exact .withRoom (.of_eq (Room.works_retry venue.now ticket parked).people)
          · exact .refl _
  | pass milliseconds => exact .refl _
  | _ => exact absurd plain id

end Venue

end Netplay
