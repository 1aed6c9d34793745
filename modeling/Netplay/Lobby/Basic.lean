/-
Module: Netplay.Lobby.Basic
Purpose: The users and games of one relay.
Main exports:
  Lobby, Lobby.loggedIn?, Lobby.gameOf?, Lobby.broadcast, Lobby.withRoom,
  UserId.firstFree, Lobby.connect
-/
import Netplay.Game.Play
import Netplay.Game.Merge

namespace Netplay

/-- The users and games of one relay. -/
structure Lobby where
  server : ServerSettings
  gameRules : GameSettings
  people : Roster
  /-- The live games in the order they were created. -/
  games : List Game
  /-- Closed games that still have merges in flight. -/
  closed : List Game
  /-- Where the search for the next user number begins. -/
  nextUser : UserId
  /-- The next game number. -/
  nextGame : GameId
deriving Repr, Inhabited, DecidableEq

/-- The first number at or after `counter`, in the cyclic order that skips
zero, that is not in use, and the counter after it; none within `tries`
steps. -/
def UserId.firstFree (used : List UserId) :
    Nat → UserId → Option (UserId × UserId)
  | 0, _ => none
  | tries + 1, counter =>
      if counter ≠ 0 ∧ counter ∉ used then some (counter, counter + 1)
      else firstFree used tries (counter + 1)

namespace Lobby

/-- A lobby without users and games. -/
def empty (settings : Settings) : Lobby :=
  { server := settings.server
    gameRules := settings.game
    people := Roster.empty
    games := []
    closed := []
    nextUser := 1
    nextGame := 1 }

/-- The live game with a given number. -/
def game? (lobby : Lobby) (id : GameId) : Option Game :=
  lobby.games.find? (·.id = id)

/-- The live games by number. -/
def gamesById (lobby : Lobby) : List Game :=
  lobby.games.mergeSort fun a b => a.id ≤ b.id

/-- The registered user with a given number, who must be logged in. -/
def loggedIn? (lobby : Lobby) (id : UserId) : Except Refusal User :=
  match lobby.people.registered? id with
  | none => .error (.userNotFound id)
  | some user => if user.loggedIn then .ok user else .error (.notLoggedIn id)

/-- The live game of a user. -/
def gameOf? (lobby : Lobby) (user : User) : Except Refusal Game :=
  match user.game with
  | none => .error (.notInGame user.id)
  | some id =>
      match lobby.game? id with
      | none => .error (.gameNotFound id)
      | some game => .ok game

/-- The logged-in user with a given number and its live game. -/
def player? (lobby : Lobby) (id : UserId) : Except Refusal (User × Game) :=
  match lobby.loggedIn? id with
  | .error refusal => .error refusal
  | .ok user =>
      match lobby.gameOf? user with
      | .error refusal => .error refusal
      | .ok game => .ok (user, game)

/-- Letters that tell an event to everyone logged in. -/
def broadcast (lobby : Lobby) (event : ServerEvent) : List Letter :=
  Letter.toAll
    ((lobby.people.present.filter (·.loggedIn)).map (·.id)) (.server event)

/-- Letters that tell everyone how a live game stands. -/
def broadcastStatus (lobby : Lobby) (id : GameId) : List Letter :=
  match lobby.game? id with
  | none => []
  | some game =>
      lobby.broadcast (.gameStatusChanged (game.summary lobby.people))

/-- A game with the people of the lobby. -/
def room (lobby : Lobby) (game : Game) : Room := ⟨game, lobby.people⟩

/-- The lobby after something happened in one of its games.  A closed game is
forgotten once it has no merge in flight. -/
def withRoom (lobby : Lobby) (room : Room) : Lobby :=
  let replace := fun game : Game =>
    if game.id = room.game.id then room.game else game
  { lobby with
    people := room.people
    games := lobby.games.map replace
    closed := (lobby.closed.map replace).filter (·.inFlight ≠ []) }

/-- An operation on a game as an operation on the lobby.  What a refused one has
done before it fails stays done. -/
def play {α : Type} (lobby : Lobby) (step : Step Room α) : Step Lobby α :=
  ⟨lobby.withRoom step.state, step.letters, step.result⟩

/-- The same, with everyone told how the game stands when `announce` holds of
the result. -/
def playAndTell {α : Type} (lobby : Lobby) (step : Step Room α)
    (announce : α → Bool) : Step Lobby α :=
  let played := lobby.play step
  match played.result with
  | .error _ => played
  | .ok value =>
      if announce value then
        { played with
          letters :=
            played.letters ++ played.state.broadcastStatus step.state.game.id }
      else played

/-- Register a user for a new connection; the result is its number. -/
def connect (lobby : Lobby) (address : Address) (protocol : String) :
    Step Lobby UserId :=
  if lobby.server.maxUsers ≤ lobby.people.present.length then
    .refuse lobby .serverFull
  else
    match UserId.firstFree (lobby.people.present.map (·.id)) 65537
        lobby.nextUser with
    | none => .refuse lobby .serverFull
    | some (id, counter) =>
        .done
          { lobby with
            nextUser := counter
            people :=
              lobby.people.register (User.connecting id address protocol) }
          [] id

end Lobby

end Netplay
