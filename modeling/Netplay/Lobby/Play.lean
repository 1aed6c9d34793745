/-
Module: Netplay.Lobby.Play
Purpose: What logged-in users do: chat, and create, join, run and leave games.
Main exports:
  Lobby.chat, Lobby.createGame, Lobby.joinGame, Lobby.leave, Lobby.quitGame,
  Lobby.startGame, Lobby.ready, Lobby.dropGame, Lobby.kick, Lobby.gameChat,
  Lobby.droppedPacket, Lobby.addGameData
-/
import Netplay.Lobby.Basic
import Netplay.Text.Blank

namespace Netplay.Lobby

/-- Say something to everyone logged in. -/
def chat (lobby : Lobby) (id : UserId) (message : String) : Step Lobby Unit :=
  match lobby.loggedIn? id with
  | .error refusal => .refuse lobby refusal
  | .ok user =>
      if Text.isBlank message then .refuse lobby (.denied .emptyMessage)
      else .done lobby (lobby.broadcast (.chat user message)) ()

/-- The number of the next game and the counter after it; zero is skipped. -/
def allocateGame (counter : GameId) : GameId × GameId :=
  if counter = 0 then (1, 2) else (counter, counter + 1)

/-- Create a game and join it.  The game is there, and announced, before its
owner joins; it takes the place of an earlier one under its number. -/
def createGame (lobby : Lobby) (id : UserId) (name : String) :
    Step Lobby GameId :=
  match lobby.loggedIn? id with
  | .error refusal => .refuse lobby refusal
  | .ok user =>
      if user.game.isSome then .refuse lobby (.alreadyInGame id)
      else if 0 < lobby.server.maxGames ∧
          lobby.server.maxGames ≤ lobby.games.length then
        .refuse lobby (.denied .tooManyGames)
      else
        let (number, counter) := allocateGame lobby.nextGame
        let game := Game.create number name user lobby.gameRules
        let others := lobby.games.filter (·.id ≠ number)
        let created :=
          { lobby with
            games := others ++ [game]
            closed := lobby.closed.filter (·.id ≠ number)
            nextGame := counter }
        let told :=
          created.broadcast (.gameCreated (game.summary created.people))
        let joined :=
          created.playAndTell ((created.room game).join id) fun _ => true
        { (joined.after told) with
          result := joined.result.map fun _ => number }

/-- Join a live game; the result is its number. -/
def joinGame (lobby : Lobby) (id : UserId) (target : GameId) :
    Step Lobby GameId :=
  match lobby.loggedIn? id with
  | .error refusal => .refuse lobby refusal
  | .ok user =>
      if user.game.isSome then .refuse lobby (.alreadyInGame id)
      else
        match lobby.game? target with
        | none => .refuse lobby (.gameNotFound target)
        | some game =>
            let joined :=
              lobby.playAndTell ((lobby.room game).join id) fun _ => true
            { joined with result := joined.result.map fun _ => target }

/-- Close a game for everyone.  Its merges in flight go on until they see
it. -/
def closeGame (lobby : Lobby) (game : Game) (owner : UserId) :
    Step Lobby Unit :=
  let closing := (lobby.room game).close owner
  match closing.result with
  | .error refusal =>
      ⟨lobby.withRoom closing.state, closing.letters, .error refusal⟩
  | .ok _ =>
      let shut := closing.state.game
      let next :=
        { lobby with
          people := closing.state.people
          games := lobby.games.filter (·.id ≠ game.id)
          closed :=
            if shut.inFlight = [] then lobby.closed else lobby.closed ++ [shut] }
      .done next (next.broadcast (.gameClosed game.id)) ()

/-- Leave the game one is in.  The owner leaving closes it for everyone. -/
def leave (lobby : Lobby) (user : User) : Step Lobby Unit :=
  match lobby.gameOf? user with
  | .error refusal => .refuse lobby refusal
  | .ok game =>
      if user.id = game.owner then
        let left := lobby.play ((lobby.room game).quit user.id)
        match left.result with
        | .error _ => left
        | .ok _ =>
            match left.state.game? game.id with
            | none => left
            | some remaining =>
                (left.state.closeGame remaining user.id).after left.letters
      else
        lobby.playAndTell ((lobby.room game).quit user.id) fun _ => true

/-- Leave a game as a logged-in user. -/
def quitGame (lobby : Lobby) (id : UserId) : Step Lobby Unit :=
  match lobby.loggedIn? id with
  | .error refusal => .refuse lobby refusal
  | .ok user => lobby.leave user

/-- Start a round of one's game. -/
def startGame (lobby : Lobby) (id : UserId) : Step Lobby Unit :=
  match lobby.player? id with
  | .error refusal => .refuse lobby refusal
  | .ok (_, game) =>
      lobby.playAndTell ((lobby.room game).start id) fun _ => true

/-- Signal that one is ready to play. -/
def ready (lobby : Lobby) (id : UserId) : Step Lobby Unit :=
  match lobby.player? id with
  | .error refusal => .refuse lobby refusal
  | .ok (_, game) =>
      let step := lobby.playAndTell ((lobby.room game).ready id) fun all => all
      { step with result := step.result.map fun _ => () }

/-- Stop playing without leaving the game. -/
def dropGame (lobby : Lobby) (id : UserId) : Step Lobby Unit :=
  match lobby.player? id with
  | .error refusal => .refuse lobby refusal
  | .ok (_, game) =>
      let step := lobby.playAndTell ((lobby.room game).drop id) fun ended => ended
      { step with result := step.result.map fun _ => () }

/-- The notice to a user who is kicked. -/
def kickNotice (game : Game) : UserEvent :=
  .infoMessage "server" ("You were kicked from " ++ game.name)

/-- Bar a member from one's game and make it leave. -/
def kick (lobby : Lobby) (id target : UserId) : Step Lobby Unit :=
  match lobby.player? id with
  | .error refusal => .refuse lobby refusal
  | .ok (_, game) =>
      let barred := lobby.play ((lobby.room game).kick id target)
      match barred.result with
      | .error refusal => ⟨barred.state, barred.letters, .error refusal⟩
      | .ok _ =>
          (barred.state.leave (barred.state.people.person target)).after
            [⟨target, .user (kickNotice game)⟩]

/-- Say something to the members of one's game. -/
def gameChat (lobby : Lobby) (id : UserId) (message : String) :
    Step Lobby Unit :=
  match lobby.player? id with
  | .error refusal => .refuse lobby refusal
  | .ok (_, game) => lobby.play ((lobby.room game).chat id message)

/-- A gap in the messages of a user. -/
def droppedPacket (lobby : Lobby) (id : UserId) : Lobby × List Letter :=
  match lobby.people.registered? id with
  | none => (lobby, [])
  | some user =>
      match lobby.gameOf? user with
      | .error _ => (lobby, [])
      | .ok game =>
          let (room, letters) := (lobby.room game).droppedPacket id
          (lobby.withRoom room, letters)

/-- Take in a message of input for one's game. -/
def addGameData (lobby : Lobby) (now ticket : Nat) (id : UserId)
    (data : Bytes) : Lobby × List Letter × Progress :=
  match lobby.player? id with
  | .error refusal => (lobby, [], .finished (.error refusal))
  | .ok (_, game) =>
      let (room, letters, progress) :=
        (lobby.room game).addData now ticket id data
      (lobby.withRoom room, letters, progress)

end Netplay.Lobby
