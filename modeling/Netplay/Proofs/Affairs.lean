/-
Module: Netplay.Proofs.Affairs
Purpose: What a lobby makes of an affair of one of its games is what the room of that game
  makes of it, but for what everyone is told.
Main exports:
  Lobby.attend, Lobby.gameNews, Affair.At, Lobby.attend_outcome, Lobby.kept_attend,
  Lobby.shuttered_attend, Lobby.Answers, Lobby.attend_eq
-/
import Netplay.Proofs.Grafts
import Netplay.Proofs.Labels
import Netplay.Proofs.Locality

namespace Netplay

/-- What a lobby makes of an affair, what is told, and what comes of it. -/
structure Lobby.Reply where
  state : Lobby
  letters : List Letter
  /-- What the user that asks is told, unless it has to wait. -/
  result : Option (Except Refusal Unit)

namespace Lobby

/-- A step is answered at once. -/
def Reply.of (step : Step Lobby Unit) : Reply := ⟨step.state, step.letters, some step.result⟩

/-- What a lobby makes of an affair. -/
def attend (lobby : Lobby) : Affair → Reply
  | .start user => .of (lobby.startGame user)
  | .ready user => .of (lobby.ready user)
  | .drop user => .of (lobby.dropGame user)
  | .kick user target => .of (lobby.kick user target)
  | .leave user => .of (lobby.quitGame user)
  | .chat user message => .of (lobby.gameChat user message)
  | .gap user => ⟨(lobby.droppedPacket user).1, (lobby.droppedPacket user).2, some (.ok ())⟩
  | .input now ticket user data =>
      let (after, letters, progress) := lobby.addGameData now ticket user data
      ⟨after, letters, progress.result?⟩
  | .retry now number ticket =>
      match lobby.allGames.find? (·.id = number) with
      | none => ⟨lobby, [], none⟩
      | some game =>
          match game.inFlight.find? (·.merge.ticket = ticket) with
          | none => ⟨lobby, [], none⟩
          | some parked =>
              if parked ∈ game.woken ∨ parked.deadline ≤ now then
                let (room, letters, progress) :=
                  ((lobby.room game).unpark ticket).resume now parked
                ⟨lobby.withRoom room, letters, progress.result?⟩
              else ⟨lobby, [], none⟩

/-- What is told a user of games. -/
def gameNews (user : UserId) (letters : List Letter) : List Letter :=
  letters.filter fun letter => letter.recipient = user && letter.event.about?.isSome

end Lobby

/-- The affair is one of the game: the user that asks for it is logged in and its entry names
the game, or the merge that is retried is one of it, be it live or closed. -/
def Affair.At (lobby : Lobby) (game : Game) (affair : Affair) : Prop :=
  match affair with
  | .retry _ number _ => game ∈ lobby.allGames ∧ game.id = number
  | issued => ∃ user ∈ issued.asker?, ∃ person, lobby.player? user = .ok (person, game)

/-- The move by which a lobby attends to an affair. -/
def Affair.move : Affair → Venue.Move
  | .start user => .start user
  | .ready user => .ready user
  | .drop user => .drop user
  | .kick user target => .kick user target
  | .leave user => .leave user
  | .chat user message => .gameChat user message
  | .gap user => .gap user
  | .input _ _ user data => .input user data
  | .retry _ number ticket => .retry number ticket

/-- A venue at which it does so: at that time, with that ticket next. -/
def Affair.venue (lobby : Lobby) (created : Nat) : Affair → Venue
  | .input now ticket _ _ => ⟨lobby, now, ticket, created⟩
  | .retry now _ _ => ⟨lobby, now, 0, created⟩
  | _ => ⟨lobby, 0, 0, created⟩

namespace Lobby

variable {lobby : Lobby} {game other : Game} {affair : Affair} {room : Room} {user : UserId}
  {settings : Settings} {created : Nat}

/-- Attending to an affair is a move of the venue. -/
theorem attend_outcome (lobby : Lobby) (created : Nat) (affair : Affair) :
    (lobby.attend affair).state = ((affair.venue lobby created).outcome affair.move).state ∧
      (lobby.attend affair).letters =
        ((affair.venue lobby created).outcome affair.move).letters := by
  cases affair with
  | retry now number ticket =>
      rw [attend, Affair.move, Affair.venue, Venue.outcome, Venue.retried]
      simp only
      cases lobby.allGames.find? (·.id = number) with
      | none => exact ⟨rfl, rfl⟩
      | some game =>
          simp only
          cases game.inFlight.find? (·.merge.ticket = ticket) with
          | none => exact ⟨rfl, rfl⟩
          | some parked =>
              simp only
              split
              · exact ⟨rfl, rfl⟩
              · exact ⟨rfl, rfl⟩
  | _ => exact ⟨rfl, rfl⟩

/-- So the books stay in order. -/
theorem kept_attend (kept : lobby.Kept settings created) (affair : Affair) :
    (lobby.attend affair).state.Kept settings created := by
  have holds : (affair.venue lobby created).lobby.Kept settings
      (affair.venue lobby created).created := by
    cases affair with
    | _ => exact kept
  have after := Venue.kept_step holds affair.move
  have creates : ¬ affair.move.Creates := by
    cases affair with
    | _ => exact id
  have count : (affair.venue lobby created).created = created := by
    cases affair with
    | _ => rfl
  rwa [Venue.created_step creates, count, Venue.step_lobby,
    ← (lobby.attend_outcome created affair).1] at after

/-- And closed games stay closed. -/
theorem shuttered_attend (nodup : (lobby.allGames.map (·.id)).Nodup)
    (shuttered : lobby.Shuttered) (affair : Affair) : (lobby.attend affair).state.Shuttered := by
  have same : (affair.venue lobby 0).lobby = lobby := by
    cases affair with
    | _ => rfl
  have after := Venue.shuttered_step (same.symm ▸ shuttered) (same.symm ▸ nodup) affair.move
  rwa [Venue.step_lobby, ← (lobby.attend_outcome 0 affair).1] at after

/-! ### News -/

theorem gameNews_append (user : UserId) (one two : List Letter) :
    gameNews user (one ++ two) = gameNews user one ++ gameNews user two :=
  List.filter_append ..

/-- What is not about a game is no news of one. -/
theorem gameNews_aside {letters : List Letter} (told : ∀ letter ∈ letters, Aside letter)
    (user : UserId) : gameNews user letters = [] := by
  refine List.filter_eq_nil_iff.mpr fun letter member => ?_
  have about : letter.event.about? = none := by
    unfold Event.about?
    split
    · rename_i number event isGame
      exact absurd isGame (told letter member number event)
    · rfl
  rw [about]
  simp

/-- Users that are not reached hear nothing. -/
theorem gameNews_unheard {ids : List UserId} {letters : List Letter}
    (reaches : room.Reaches ids letters) (apart : user ∉ ids) : gameNews user letters = [] := by
  refine List.filter_eq_nil_iff.mpr fun letter member heard => ?_
  rw [Bool.and_eq_true, decide_eq_true_eq] at heard
  exact apart (heard.1 ▸ (reaches letter member).2)

/-! ### Answers -/

/-- The lobby answers as the room of one of its games does, but for what everyone is told. -/
structure Answers (lobby : Lobby) (made : Reply) (reply : Room.Reply) : Prop where
  state : made.state = lobby.graft reply.room.game reply.closes reply.room.people
  result : made.result = reply.result
  news : ∀ user, gameNews user made.letters = gameNews user reply.letters

section Answers

variable {α : Type} {step : Step Room α}

/-- An operation on a game is answered by its room, refused or not. -/
theorem answers_play (lobby : Lobby) (step : Step Room α) :
    lobby.Answers (.of (lobby.play step).void) (.of step) :=
  ⟨rfl, rfl, fun _ => rfl⟩

/-- Telling everyone how the game stands is no news of it. -/
theorem answers_playAndTell (lobby : Lobby) (step : Step Room α) (announce : α → Bool) :
    lobby.Answers (.of (lobby.playAndTell step announce).void) (.of step) := by
  obtain ⟨state, result, news⟩ := lobby.answers_play step
  obtain ⟨sameState, sameResult⟩ := lobby.playAndTell_eq step announce
  refine ⟨sameState.trans state, ?_, fun user => ?_⟩
  · refine Eq.trans ?_ result
    simp only [Reply.of, Step.void, sameResult]
  · refine Eq.trans ?_ (news user)
    unfold playAndTell
    simp only [Reply.of, Step.void]
    split
    · rfl
    · split
      · rw [gameNews_append, gameNews_aside (aside_broadcastStatus _ _), List.append_nil]
      · rfl

end Answers

/-- A step without a value is its own answer. -/
theorem void_unit {σ : Type} (step : Step σ Unit) : step.void = step := by
  obtain ⟨state, letters, result⟩ := step
  cases result with
  | error refusal => rfl
  | ok value => rfl

section Leaving

variable (nodup : (lobby.allGames.map (·.id)).Nodup) (shuttered : lobby.Shuttered)
include nodup shuttered

/-- The owner closes its game: the lobby loses the game that its room is left with. -/
theorem answers_closeGame (live : game ∈ lobby.games) (number : room.game.id = game.id)
    {id : UserId} (owner : id = room.game.owner) :
    ((lobby.withRoom room).closeGame room.game id).state =
        lobby.graft (room.close id).state.game true (room.close id).state.people ∧
      ((lobby.withRoom room).closeGame room.game id).result = .ok () ∧
      ∀ user, gameNews user ((lobby.withRoom room).closeGame room.game id).letters = [] := by
  have shut : (room.close id).state.game.id = room.game.id :=
    (@Room.turn_perform room (.close id) trivial).number
  have games : (lobby.withRoom room).games.filter (·.id ≠ room.game.id) =
      lobby.games.filter (·.id ≠ (room.close id).state.game.id) := by
    rw [shut]
    exact Game.filter_among lobby.games
  have done : ((((lobby.withRoom room).room room.game)).close id).result = .ok () := by
    rcases room.close_cases id with ⟨-, stranger⟩ | ⟨silent, -, -, -, -, makes⟩
    · exact absurd owner stranger
    · obtain ⟨_, done⟩ := makes.result
      exact done
  unfold closeGame
  simp only [done]
  refine ⟨?_, rfl, fun user => gameNews_aside (aside_broadcast _ _) user⟩
  rw [graft, if_pos rfl, closed_withRoom nodup shuttered live number, games]
  rfl

/-- An owner that leaves closes its game. -/
theorem answers_leave_owner {person : User} (found : lobby.gameOf? person = .ok game)
    (owner : person.id = game.owner) (makes : ((lobby.room game).quit person.id).Makes
      ((lobby.room game).left person.id)) :
    lobby.Answers (.of (lobby.leave person)) ((lobby.room game).part person.id) := by
  have live := (gameOf?_eq_ok found).2
  obtain ⟨value, done⟩ := makes.result
  obtain ⟨before, sameGame, leaves⟩ := (lobby.room game).left_game person.id
  have number : ((lobby.room game).left person.id).game.id = game.id := by
    rw [leaves]
    exact sameGame.id
  have itself : person.id = ((lobby.room game).left person.id).game.owner := by
    rw [leaves]
    exact owner.trans sameGame.owner.symm
  have part : (lobby.room game).part person.id =
      ⟨(((lobby.room game).left person.id).close person.id).state,
        ((lobby.room game).quit person.id).letters, some (.ok ()), true⟩ := by
    simp only [Room.part]
    rw [if_pos ⟨done, owner⟩, makes.state]
    simp only [Room.Reply.of, Step.void, done]
    rfl
  obtain ⟨state, result, news⟩ := answers_closeGame nodup shuttered live number itself
  unfold leave
  simp only [found]
  rw [if_pos owner, part]
  simp only [play, done, makes.state, game?_withRoom live number]
  refine ⟨state, congrArg some result, fun user => (gameNews_append user _ _).trans ?_⟩
  rw [news, List.append_nil]

/-- Whoever leaves its game leaves the room of it. -/
theorem answers_leave {person : User} (found : lobby.gameOf? person = .ok game) :
    lobby.Answers (.of (lobby.leave person)) ((lobby.room game).part person.id) := by
  by_cases owner : person.id = game.owner
  · rcases (lobby.room game).quit_cases person.id with ⟨refused, -⟩ | ⟨-, makes⟩
    · obtain ⟨refusal, failed⟩ := refused.result
      have played := lobby.answers_play ((lobby.room game).quit person.id)
      rw [void_unit] at played
      unfold leave
      simp only [found]
      rw [if_pos owner, Room.part_open fun closes => by
        rw [failed] at closes
        cases closes.1]
      simp only [play, failed] at played ⊢
      exact played
    · exact answers_leave_owner nodup shuttered found owner makes
  · have played :=
      lobby.answers_playAndTell ((lobby.room game).quit person.id) fun _ => true
    rw [void_unit] at played
    unfold leave
    simp only [found]
    rwa [if_neg owner, Room.part_open fun closes => owner closes.2]

/-- Whoever bars a member makes it leave the room. -/
theorem answers_kick (placed : lobby.Placed) {person : User} {id target : UserId}
    (found : lobby.player? id = .ok (person, game)) :
    lobby.Answers (.of (lobby.kick id target)) ((lobby.room game).expel id target) := by
  have live := player?_eq_ok found
  unfold kick
  simp only [found]
  rcases (lobby.room game).kick_cases id target with
    refused | ⟨kicked, -, owner, another, member, makes⟩
  · obtain ⟨refusal, failed⟩ := refused.result
    have played := lobby.answers_play ((lobby.room game).kick id target)
    simp only [play, Room.expel, failed] at played ⊢
    exact played
  · obtain ⟨value, done⟩ := makes.result
    obtain ⟨barred, isBarred⟩ : ∃ barred : Room,
      barred = ⟨{ game with kicked := kicked }, lobby.people⟩ := ⟨_, rfl⟩
    have bars : ((lobby.room game).kick id target).state = barred :=
      makes.state.trans isBarred.symm
    have number : barred.game.id = game.id := isBarred ▸ rfl
    have guest : target ≠ barred.game.owner := by
      rw [isBarred]
      exact fun same => another (same.trans owner.symm)
    have stays : barred.part target = .of (barred.quit target) :=
      Room.part_open fun closes => guest closes.2
    have expel : (lobby.room game).expel id target = .of (barred.quit target) := by
      simp only [Room.expel, done, bars]
    have still := gameOf?_withRoom (placed.found game live target member) number
    have left : (lobby.withRoom barred).Answers _ (barred.part _) :=
      answers_leave ((Retains.withRoom lobby _).nodup nodup)
        (shuttered.live nodup live number) still
    rw [id_person lobby.people target, stays] at left
    obtain ⟨state, result, news⟩ := left
    have people : (lobby.withRoom barred).people = lobby.people := by
      rw [isBarred]
      rfl
    rw [expel]
    simp only [play, done, bars, people]
    refine ⟨state.trans ?_, result, fun user => (gameNews_append user _ _).trans ?_⟩
    · exact withRoom_withRoom nodup shuttered live number
        ((barred.number_quit target).trans number)
    · have aside : gameNews user [⟨target, .user (kickNotice game)⟩] = [] := by
        simp [gameNews, Event.about?]
      rw [aside, List.nil_append]
      exact news user

end Leaving

/-- The user that asks is registered and logged in, and is found with its game. -/
theorem parts_of_player? {id : UserId} {person : User}
    (found : lobby.player? id = .ok (person, game)) :
    lobby.people.registered? id = some person ∧ lobby.loggedIn? id = .ok person ∧
      lobby.gameOf? person = .ok game := by
  unfold player? at found
  split at found
  · cases found
  · rename_i user loggedIn
    split at found
    · cases found
    · rename_i live place
      cases found
      refine ⟨?_, loggedIn, place⟩
      unfold loggedIn? at loggedIn
      split at loggedIn
      · cases loggedIn
      · rename_i registered known
        split at loggedIn
        · cases loggedIn
          exact known
        · cases loggedIn

/-- Whatever is attended to, the lobby answers as the room of the game does. -/
theorem attend_eq (nodup : (lobby.allGames.map (·.id)).Nodup) (shuttered : lobby.Shuttered)
    (placed : lobby.Placed) (place : affair.At lobby game) :
    lobby.Answers (lobby.attend affair) ((lobby.room game).attend affair) := by
  cases affair with
  | start user =>
      obtain ⟨_, isUser, person, found⟩ := place
      obtain rfl := Option.some.inj isUser
      have started :=
        lobby.answers_playAndTell ((lobby.room game).start user) fun _ => true
      rw [attend, startGame, found]
      rwa [void_unit] at started
  | ready user =>
      obtain ⟨_, isUser, person, found⟩ := place
      obtain rfl := Option.some.inj isUser
      rw [attend, ready, found]
      exact lobby.answers_playAndTell _ fun all => all
  | drop user =>
      obtain ⟨_, isUser, person, found⟩ := place
      obtain rfl := Option.some.inj isUser
      rw [attend, dropGame, found]
      exact lobby.answers_playAndTell _ fun ended => ended
  | kick user target =>
      obtain ⟨_, isUser, person, found⟩ := place
      obtain rfl := Option.some.inj isUser
      exact answers_kick nodup shuttered placed found
  | leave user =>
      obtain ⟨_, isUser, person, found⟩ := place
      obtain rfl := Option.some.inj isUser
      obtain ⟨-, loggedIn, here⟩ := parts_of_player? found
      obtain ⟨-, number⟩ := registered_of_player? found
      rw [attend, quitGame, loggedIn]
      exact number ▸ answers_leave nodup shuttered here
  | chat user message =>
      obtain ⟨_, isUser, person, found⟩ := place
      obtain rfl := Option.some.inj isUser
      have said := lobby.answers_play ((lobby.room game).chat user message)
      rw [attend, gameChat, found]
      rwa [void_unit] at said
  | gap user =>
      obtain ⟨_, isUser, person, found⟩ := place
      obtain rfl := Option.some.inj isUser
      obtain ⟨known, -, here⟩ := parts_of_player? found
      rw [attend, droppedPacket, known]
      simp only [here]
      exact ⟨rfl, rfl, fun _ => rfl⟩
  | input now ticket user data =>
      obtain ⟨_, isUser, person, found⟩ := place
      obtain rfl := Option.some.inj isUser
      rw [attend, addGameData, found]
      exact ⟨rfl, rfl, fun _ => rfl⟩
  | retry now number ticket =>
      obtain ⟨member, rfl⟩ := place
      have first : lobby.allGames.find? (·.id = game.id) = some game := find?_key nodup member
      have idle : lobby.Answers ⟨lobby, [], none⟩ (.nothing (lobby.room game)) :=
        ⟨(placed.neat.withRoom_self member).symm, rfl, fun _ => rfl⟩
      rw [attend, first, Room.attend, Room.retry]
      unfold room at idle ⊢
      simp only
      cases game.inFlight.find? (·.merge.ticket = ticket) with
      | none => exact idle
      | some parked =>
          by_cases due : parked ∈ game.woken ∨ parked.deadline ≤ now
          · simp only [if_pos due]
            exact ⟨rfl, rfl, fun _ => rfl⟩
          · simp only [if_neg due]
            exact idle

end Lobby

end Netplay
