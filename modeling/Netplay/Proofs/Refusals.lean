/-
Module: Netplay.Proofs.Refusals
Purpose: What a lobby is asked to do and refuses leaves no trace, but for the
  notice of a start that the connection types stand in the way of.
Main exports:
  Step.Inert, Room.start_refused, Lobby.inert_leave, Lobby.inert_kick,
  Venue.outcome, Venue.step_lobby, Venue.Move.Whole, Venue.refused_unchanged
-/
import Netplay.Proofs.Coherence

namespace Netplay

/-! ## Refusals -/

/-- If the step is refused, it leaves things as they were and sends nothing. -/
def Step.Inert {σ α : Type} (step : Step σ α) (before : σ) : Prop :=
  ∀ refusal, step.result = .error refusal → step.state = before ∧ step.letters = []

/-- The same step without its value. -/
def Step.void {σ α : Type} (step : Step σ α) : Step σ Unit :=
  { step with result := step.result.map fun _ => () }

namespace Step.Inert

variable {σ α β : Type} {before : σ}

theorem refuse (state : σ) (refusal : Refusal) :
    (Step.refuse (α := α) state refusal).Inert state :=
  fun _ _ => ⟨rfl, rfl⟩

theorem of_ok {step : Step σ α} {value : α} (done : step.result = .ok value) :
    step.Inert before := by
  intro refusal failed
  rw [done] at failed
  cases failed

theorem done (state : σ) (letters : List Letter) (value : α) :
    (Step.done state letters value).Inert before :=
  of_ok rfl

theorem keeps {step : Step σ α} (inert : step.Inert before) :
    ∀ refusal, step.result = .error refusal → step.state = before :=
  fun refusal failed => (inert refusal failed).1

/-- Another value makes no refusal. -/
theorem map {step : Step σ α} (inert : step.Inert before) (change : α → β) :
    Step.Inert { step with result := step.result.map change } before := by
  intro refusal failed
  cases result : step.result with
  | error other => exact inert other result
  | ok value =>
      simp only [result, Except.map] at failed
      cases failed

end Step.Inert

/-! ## Games -/

namespace Room

variable (room : Room) (id : UserId)

theorem inert_join : (room.join id).Inert room := by
  unfold join
  simp only
  split
  · exact .refuse room _
  · split
    · exact .refuse room _
    · split
      · exact .refuse room _
      · split
        · exact .refuse room _
        · exact .done _ _ _

theorem inert_ready : (room.ready id).Inert room := by
  unfold ready
  simp only
  split
  · exact .refuse room _
  · split
    · exact .refuse room _
    · split
      · exact .refuse room _
      · split
        · exact .done _ _ _
        · exact .done _ _ _

theorem inert_drop : (room.drop id).Inert room := by
  unfold drop
  simp only
  split
  · exact .refuse room _
  · split
    · exact .refuse room _
    · split
      · exact .refuse room _
      · exact .done _ _ _

theorem inert_quit : (room.quit id).Inert room := by
  by_cases member : id ∈ room.game.members
  · rw [room.quit_eq id member]
    exact .done _ _ _
  · rw [room.quit_stranger id member]
    exact .refuse room _

theorem inert_kick (target : UserId) : (room.kick id target).Inert room := by
  unfold kick
  simp only
  split
  · exact .refuse room _
  · split
    · exact .refuse room _
    · split
      · exact .refuse room _
      · exact .done _ _ _

theorem inert_chat (message : String) : (room.chat id message).Inert room := by
  unfold chat
  split
  · exact .refuse room _
  · exact .done _ _ _

/-- What members are told when their connection types differ. -/
def typesNotice : GameEvent :=
  .info
    s!"All players must use connection type {(room.people.person room.game.owner).connectionType.toNat} to start"

/-- A start that is refused changes nothing.  Only when the connection types
differ are the members told. -/
theorem start_refused {refusal : Refusal} (refused : (room.start id).result = .error refusal) :
    (room.start id).state = room ∧
      ((room.start id).letters = [] ∨ refusal = .denied .connectionTypesDiffer ∧
        (room.start id).letters = room.game.tellAll room.typesNotice) := by
  revert refused
  unfold start
  simp only
  split
  · exact fun _ => ⟨rfl, .inl rfl⟩
  · split
    · exact fun _ => ⟨rfl, .inl rfl⟩
    · split
      · exact fun _ => ⟨rfl, .inl rfl⟩
      · split
        · intro refused
          cases refused
          exact ⟨rfl, .inr ⟨rfl, rfl⟩⟩
        · intro refused
          cases refused

end Room

/-! ## The lobby -/

namespace Lobby

variable {lobby : Lobby} {game : Game} {α : Type}

section Neat

variable (neat : lobby.Neat)
include neat

/-- What a game refuses without a trace leaves none in the lobby. -/
theorem inert_play {step : Step Room α} (inert : step.Inert (lobby.room game))
    (live : game ∈ lobby.games) : (lobby.play step).Inert lobby := by
  intro refusal failed
  obtain ⟨same, silent⟩ := inert refusal failed
  refine ⟨?_, silent⟩
  rw [play, same]
  exact neat.withRoom_self (List.mem_append_left _ live)

theorem inert_playAndTell {step : Step Room α} (inert : step.Inert (lobby.room game))
    (live : game ∈ lobby.games) (announce : α → Bool) :
    (lobby.playAndTell step announce).Inert lobby := by
  unfold playAndTell
  simp only
  split
  · exact inert_play neat inert live
  · rename_i value done
    split
    · exact .of_ok done
    · exact .of_ok done

/-- Leaving a game is refused only to those who are not in one: what the owner
leaves is then closed without fail. -/
theorem inert_leave (user : User) : (lobby.leave user).Inert lobby := by
  cases found : lobby.gameOf? user with
  | error refusal =>
      rw [leave, found]
      exact .refuse lobby _
  | ok game =>
      by_cases member : user.id ∈ game.members
      · obtain ⟨after, -, makes⟩ := leave_makes found member
        obtain ⟨value, done⟩ := makes.result
        exact .of_ok done
      · have live := (gameOf?_eq_ok found).2
        have inert := inert_play neat ((lobby.room game).inert_quit user.id) live
        rcases (lobby.room game).quit_cases user.id with ⟨refused, -⟩ | ⟨present, -⟩
        · obtain ⟨refusal, failed⟩ := (lobby.play_refused refused).result
          rw [leave, found]
          simp only [failed]
          split
          · exact inert
          · exact inert_playAndTell neat ((lobby.room game).inert_quit user.id) live _
        · exact absurd present member

end Neat

/-- A member who is barred then leaves without fail, so nobody is barred when
the owner is refused. -/
theorem inert_kick (placed : lobby.Placed) (id target : UserId) :
    (lobby.kick id target).Inert lobby := by
  unfold kick
  split
  · exact .refuse lobby _
  · rename_i user game player
    have live := player?_eq_ok player
    rcases (lobby.room game).kick_cases id target with
      refused | ⟨kicked, -, -, -, member, makes⟩
    · obtain ⟨refusal, failed⟩ := (lobby.play_refused refused).result
      have inert := inert_play placed.neat ((lobby.room game).inert_kick id target) live
        refusal failed
      simp only [failed]
      exact fun _ _ => inert
    · have makes := lobby.play_makes makes
      obtain ⟨value, done⟩ := makes.result
      have number := id_person lobby.people target
      have still : (lobby.withRoom
          { lobby.room game with game := { game with kicked := kicked } }).gameOf?
            (lobby.people.person target) = .ok { game with kicked := kicked } :=
        gameOf?_withRoom (placed.found game live target member) rfl
      obtain ⟨after, -, leaves⟩ := leave_makes still (number.symm ▸ member)
      obtain ⟨ended, gone⟩ := leaves.result
      simp only [done, makes.state]
      exact .of_ok gone

theorem inert_connect (lobby : Lobby) (address : Address) (protocol : String) :
    (lobby.connect address protocol).Inert lobby := by
  unfold connect
  split
  · exact .refuse lobby _
  · split
    · exact .refuse lobby _
    · exact .done _ _ _

theorem inert_login (lobby : Lobby) (id : UserId) : (lobby.login id).Inert lobby := by
  unfold login
  split
  · exact .refuse lobby _
  · split
    · exact .refuse lobby _
    · split
      · exact .refuse lobby _
      · split
        · exact .refuse lobby _
        · exact .done _ _ _

theorem inert_quit (lobby : Lobby) (id : UserId) (message : String) :
    (lobby.quit id message).Inert lobby := by
  unfold quit
  split
  · exact .refuse lobby _
  · exact .done _ _ _

theorem inert_chat (lobby : Lobby) (id : UserId) (message : String) :
    (lobby.chat id message).Inert lobby := by
  unfold chat
  split
  · exact .refuse lobby _
  · split
    · exact .refuse lobby _
    · exact .done _ _ _

section Neat

variable (neat : lobby.Neat)
include neat

theorem inert_joinGame (id : UserId) (target : GameId) :
    (lobby.joinGame id target).Inert lobby := by
  unfold joinGame
  split
  · exact .refuse lobby _
  · split
    · exact .refuse lobby _
    · split
      · exact .refuse lobby _
      · rename_i game found
        exact (inert_playAndTell neat (Room.inert_join _ id) (game?_eq_some found).1 _).map _

theorem inert_quitGame (id : UserId) : (lobby.quitGame id).Inert lobby := by
  unfold quitGame
  split
  · exact .refuse lobby _
  · exact inert_leave neat _

theorem inert_ready (id : UserId) : (lobby.ready id).Inert lobby := by
  unfold ready
  split
  · exact .refuse lobby _
  · rename_i user game player
    exact (inert_playAndTell neat (Room.inert_ready _ id) (player?_eq_ok player) _).map _

theorem inert_dropGame (id : UserId) : (lobby.dropGame id).Inert lobby := by
  unfold dropGame
  split
  · exact .refuse lobby _
  · rename_i user game player
    exact (inert_playAndTell neat (Room.inert_drop _ id) (player?_eq_ok player) _).map _

theorem inert_gameChat (id : UserId) (message : String) :
    (lobby.gameChat id message).Inert lobby := by
  unfold gameChat
  split
  · exact .refuse lobby _
  · rename_i user game player
    exact inert_play neat (Room.inert_chat _ id message) (player?_eq_ok player)

/-- A start that is refused changes nothing, and only when the connection types
differ somebody is told: the members of the game. -/
theorem startGame_refused {id : UserId} {refusal : Refusal}
    (refused : (lobby.startGame id).result = .error refusal) :
    (lobby.startGame id).state = lobby ∧
      ((lobby.startGame id).letters = [] ∨ ∃ user game,
        lobby.player? id = .ok (user, game) ∧ refusal = .denied .connectionTypesDiffer ∧
        (lobby.startGame id).letters = game.tellAll (lobby.room game).typesNotice) := by
  unfold startGame at refused ⊢
  split at refused
  · rename_i other failed
    simp only [failed]
    exact ⟨rfl, .inl rfl⟩
  · rename_i user game player
    simp only [player]
    rw [(playAndTell_eq ..).2] at refused
    cases started : ((lobby.room game).start id).result with
    | ok value =>
        rw [play, started] at refused
        cases refused
    | error other =>
        obtain ⟨same, told⟩ := (lobby.room game).start_refused id started
        have played : lobby.play ((lobby.room game).start id) =
            ⟨lobby, ((lobby.room game).start id).letters, .error other⟩ := by
          rw [play, started, same,
            neat.withRoom_self (List.mem_append_left _ (player?_eq_ok player))]
        rw [played] at refused
        obtain rfl : other = refusal := Except.error.inj refused
        rw [playAndTell, played]
        rcases told with silent | ⟨differ, told⟩
        · exact ⟨rfl, .inl silent⟩
        · exact ⟨rfl, .inr ⟨user, game, rfl, differ, told⟩⟩

end Neat

end Lobby

/-! ## Everything that happens -/

namespace Venue

variable {venue : Venue}

/-- What retrying a parked merge makes of the lobby, and the letters it sends. -/
def retried (venue : Venue) (number : GameId) (ticket : Nat) : Step Lobby Unit :=
  match venue.lobby.allGames.find? (·.id = number) with
  | none => .done venue.lobby [] ()
  | some game =>
      match game.inFlight.find? (·.merge.ticket = ticket) with
      | none => .done venue.lobby [] ()
      | some parked =>
          if parked ∈ game.woken ∨ parked.deadline ≤ venue.now then
            let (room, letters, _) :=
              ((venue.lobby.room game).unpark ticket).resume venue.now parked
            .done (venue.lobby.withRoom room) letters ()
          else .done venue.lobby [] ()

/-- What a move makes of the lobby, the letters it sends, and whether it is
refused. -/
def outcome (venue : Venue) : Move → Step Lobby Unit
  | .connect address protocol => (venue.lobby.connect address protocol).void
  | .introduce user name emulator connectionType =>
      .done
        { venue.lobby with
          people := venue.lobby.people.update user
            (·.introduce name emulator connectionType) }
        [] ()
  | .measure user ping =>
      .done
        { venue.lobby with
          people := venue.lobby.people.update user ({ · with ping := ping }) }
        [] ()
  | .login user => venue.lobby.login user
  | .quit user message => venue.lobby.quit user message
  | .chat user message => venue.lobby.chat user message
  | .create user name => (venue.lobby.createGame user name).void
  | .join user game => (venue.lobby.joinGame user game).void
  | .leave user => venue.lobby.quitGame user
  | .start user => venue.lobby.startGame user
  | .ready user => venue.lobby.ready user
  | .drop user => venue.lobby.dropGame user
  | .kick user target => venue.lobby.kick user target
  | .gameChat user message => venue.lobby.gameChat user message
  | .gap user =>
      let (after, letters) := venue.lobby.droppedPacket user
      .done after letters ()
  | .input user data =>
      let (after, letters, progress) :=
        venue.lobby.addGameData venue.now venue.nextTicket user data
      ⟨after, letters,
        match progress with
        | .finished result => result
        | .parked => .ok ()⟩
  | .retry game ticket => venue.retried game ticket
  | .pass _ => .done venue.lobby [] ()

/-- Retrying a merge changes the lobby only. -/
theorem retry_lobby (venue : Venue) (number : GameId) (ticket : Nat) :
    venue.retry number ticket = venue.become (venue.retried number ticket).state := by
  unfold retry retried
  cases venue.lobby.allGames.find? (·.id = number) with
  | none => rfl
  | some game =>
      simp only
      cases game.inFlight.find? (·.merge.ticket = ticket) with
      | none => rfl
      | some parked =>
          simp only
          split
          · rfl
          · rfl

/-- That is what the move leaves the venue with. -/
theorem step_lobby (venue : Venue) (move : Move) :
    (venue.step move).lobby = (venue.outcome move).state := by
  cases move with
  | retry game ticket => rw [step, retry_lobby, outcome, become]
  | _ => rfl

/-- Moves that happen as a whole or not at all.  A game stands even where its
creator finds no room in it, and input may be refused after a long wait. -/
def Move.Whole : Move → Prop
  | .create _ _ => False
  | .input _ _ => False
  | _ => True

/-- The move is a start that the connection types stand in the way of, and the
members of the game are told so. -/
def Mismatch (venue : Venue) (move : Move) (refusal : Refusal) : Prop :=
  ∃ id user game, move = .start id ∧ venue.lobby.player? id = .ok (user, game) ∧
    refusal = .denied .connectionTypesDiffer ∧
    (venue.outcome move).letters = game.tellAll (venue.lobby.room game).typesNotice

/-- Where users and games find each other, a whole move that is refused leaves
the lobby as it was, and tells nobody anything, unless the connection types
stand in its way. -/
theorem refused_outcome (placed : venue.lobby.Placed) {move : Move} (whole : move.Whole)
    {refusal : Refusal} (refused : (venue.outcome move).result = .error refusal) :
    (venue.outcome move).state = venue.lobby ∧
      ((venue.outcome move).letters = [] ∨ venue.Mismatch move refusal) := by
  have neat := placed.neat
  have silent (inert : (venue.outcome move).Inert venue.lobby) :
      (venue.outcome move).state = venue.lobby ∧
        ((venue.outcome move).letters = [] ∨ venue.Mismatch move refusal) :=
    (inert refusal refused).imp_right .inl
  cases move with
  | connect address protocol =>
      exact silent ((venue.lobby.inert_connect address protocol).map _)
  | introduce user name emulator connectionType => exact silent (.done _ _ _)
  | measure user ping => exact silent (.done _ _ _)
  | login user => exact silent (venue.lobby.inert_login user)
  | quit user message => exact silent (venue.lobby.inert_quit user message)
  | chat user message => exact silent (venue.lobby.inert_chat user message)
  | create user name => exact absurd whole id
  | join user game => exact silent ((Lobby.inert_joinGame neat user game).map _)
  | leave user => exact silent (Lobby.inert_quitGame neat user)
  | start id =>
      obtain ⟨same, quiet | ⟨user, game, told⟩⟩ := Lobby.startGame_refused neat refused
      · exact ⟨same, .inl quiet⟩
      · exact ⟨same, .inr ⟨id, user, game, rfl, told⟩⟩
  | ready user => exact silent (Lobby.inert_ready neat user)
  | drop user => exact silent (Lobby.inert_dropGame neat user)
  | kick user target => exact silent (Lobby.inert_kick placed user target)
  | gameChat user message => exact silent (Lobby.inert_gameChat neat user message)
  | gap user => exact silent (.done _ _ _)
  | input user data => exact absurd whole id
  | retry game ticket =>
      refine silent ?_
      rw [outcome, retried]
      split
      · exact .done _ _ _
      · split
        · exact .done _ _ _
        · split
          · exact .done _ _ _
          · exact .done _ _ _
  | pass milliseconds => exact silent (.done _ _ _)

/-- A refused move leaves the clock and the tickets alone, too. -/
theorem step_refused {move : Move} (whole : move.Whole) {refusal : Refusal}
    (refused : (venue.outcome move).result = .error refusal) :
    venue.step move = venue.become (venue.outcome move).state := by
  cases move with
  | create user name => exact absurd whole id
  | input user data => exact absurd whole id
  | retry game ticket => rw [step, retry_lobby, outcome]
  | pass milliseconds => cases refused
  | _ => rfl

/-- At every venue there is, users and games keep to the rules of the house. -/
theorem kept_opened (settings : Settings) (moves : List Move) :
    ((opened settings).run moves).lobby.Kept settings ((opened settings).run moves).created := by
  have opens : (opened settings).lobby.Kept settings (opened settings).created :=
    Lobby.kept_empty settings
  exact kept_run opens moves

/-- Whatever has happened at a venue, a whole move that is refused leaves users,
games and counters exactly as they were.  Nobody is told anything, but for the
members of a game that their owner cannot start because their connection types
differ. -/
theorem refused_unchanged (settings : Settings) (moves : List Move) {move : Move}
    (whole : move.Whole) {refusal : Refusal}
    (refused : (((opened settings).run moves).outcome move).result = .error refusal) :
    ((opened settings).run moves).step move = (opened settings).run moves ∧
      ((((opened settings).run moves).outcome move).letters = [] ∨
        ((opened settings).run moves).Mismatch move refusal) := by
  obtain ⟨same, told⟩ := refused_outcome (kept_opened settings moves).placed whole refused
  refine ⟨?_, told⟩
  rw [step_refused whole refused, same]
  rfl

/-- Ada, who sends every action by itself, creates a game, and Bo joins, who
sends two at a time. -/
def unlikeClients : List Move :=
  arrival 1 "Ada" ++
    [.connect ⟨"10.0.0.2", 6000⟩ "0.83", .introduce 2 "Bo" "MAME" 2, .measure 2 10, .login 2,
      .create 1 "duel", .join 2 1]

/-- Ada cannot start their game.  Both get the notice, and nothing changes. -/
theorem refused_unchanged_unlikeClients :
    (Move.start 1).Whole ∧
      (((opened {}).run unlikeClients).outcome (.start 1)).result =
        .error (.denied .connectionTypesDiffer) ∧
      (((opened {}).run unlikeClients).outcome (.start 1)).letters.map (·.recipient) = [1, 2] ∧
      ((opened {}).run unlikeClients).step (.start 1) = (opened {}).run unlikeClients := by
  have whole : (Move.start 1).Whole := trivial
  have refused : (((opened {}).run unlikeClients).outcome (.start 1)).result =
      .error (.denied .connectionTypesDiffer) := by decide +kernel
  exact ⟨whole, refused, by decide +kernel,
    (refused_unchanged {} unlikeClients whole refused).1⟩

end Venue

end Netplay
