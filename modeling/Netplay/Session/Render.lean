/-
Module: Netplay.Session.Render
Purpose: Events become messages to the client.
Main exports:
  Session.render, Session.renderAll
-/
import Netplay.Lobby.Basic
import Netplay.Session.Basic
import Netplay.Wire.Body

namespace Netplay.Session

/-- The frame delay told to every client when a game starts. -/
def frameDelay : UInt16 := 2

/-- The name under which the relay speaks in the chat of a game. -/
def chatName : String := "Server"

/-- Show an event for everyone.  The own departure is the last thing shown:
it ends the session. -/
def renderServer (session : Session) : ServerEvent → Session × List Packet
  | .chat user message => session.send .globalChat (Body.chat user.name message)
  | .userJoined user => session.send .userJoined (Body.userJoined user)
  | .userQuit user message =>
      let (sent, packets) :=
        session.send .userQuit (Body.userQuit user.name user.id message)
      if user.id = session.user then ({ sent with stopped := true }, packets)
      else (sent, packets)
  | .gameCreated game => session.send .createGame (Body.newGame game)
  | .gameClosed game => session.send .closeGame (Body.closeGame game)
  | .gameStatusChanged game =>
      session.send .updateGameStatus (Body.gameStatus game)

/-- Show that a user joined one's game.  The newcomer first gets the list of
the others. -/
def renderJoin (session : Session) (game : GameId) (user : User)
    (players : List User) : Session × List Packet :=
  if user.id = session.user then
    let others := players.filter (·.id ≠ user.id)
    let (told, packets) :=
      session.send .playerInformation (Body.playerInformation others)
    let (joined, more) := told.send .joinGame (Body.joinGame game user)
    (joined, packets ++ more)
  else session.send .joinGame (Body.joinGame game user)

/-- Show one frame: as a slot, if the client holds the same frame already. -/
def renderFrame (session : Session) (frame : Bytes) : Session × List Packet :=
  match session.serverCache.indexOf frame with
  | some slot => session.send .gameCache (Body.cachedGameData slot)
  | none =>
      { session with serverCache := (session.serverCache.add frame).2 }.send
        .gameData (Body.gameData frame)

/-- Show an event in one's game.  A time-out on one's own input sends recent
messages again, one of another player is not shown, and every notice goes to
the chat. -/
def renderGame (session : Session) (lobby : Lobby) (now : Nat) (game : GameId)
    (event : GameEvent) : Session × List Packet :=
  match event with
  | .userJoined user players => session.renderJoin game user players
  | .userQuit user => session.send .quitGame (Body.quitGame user.name user.id)
  | .started players =>
      session.send .startGame
        (Body.startGame frameDelay (lobby.people.person session.user).player players)
  | .allReady => session.clearCaches.send .readyToPlay Body.allReady
  | .userDropped user player =>
      session.send .dropGame (Body.playerDrop user.name player)
  | .chat user message => session.send .gameChat (Body.chat user.name message)
  | .data frame => session.renderFrame frame
  | .timeout user number =>
      if user.id = session.user then
        session.resend lobby.server.maxPing.toNat now number
      else (session, [])
  | .info message => session.send .gameChat (Body.chat chatName message)
  | .playerDesynch _ message => session.send .gameChat (Body.chat chatName message)
  | .desynch message => session.send .gameChat (Body.chat chatName message)

/-- The other users that are logged in, by number. -/
def others (session : Session) (lobby : Lobby) : List User :=
  lobby.people.byId.filter fun user =>
    user.id ≠ session.user && user.loggedIn

/-- Show an event for the user alone.  After the login the client is told who
and what is there. -/
def renderUser (session : Session) (lobby : Lobby) : UserEvent → Session × List Packet
  | .connected =>
      session.send .serverStatus
        (Body.serverStatus (session.others lobby)
          (lobby.gamesById.map (·.summary lobby.people)))
  | .infoMessage source message =>
      session.send .serverInformation (Body.informationMessage source message)

/-- Show one event, with users and games as they are now. -/
def render (session : Session) (lobby : Lobby) (now : Nat) :
    Event → Session × List Packet
  | .server event => session.renderServer event
  | .game game event => session.renderGame lobby now game event
  | .user event => session.renderUser lobby event

/-- Show events until none is left or the session is to end. -/
def renderEvents (session : Session) (lobby : Lobby) (now : Nat) :
    List Event → Session × List Packet
  | [] => ({ session with events := [] }, [])
  | event :: rest =>
      if session.stopped then ({ session with events := event :: rest }, [])
      else
        let (shown, packets) := session.render lobby now event
        let (final, more) := shown.renderEvents lobby now rest
        (final, packets ++ more)

/-- Show all events that wait. -/
def renderAll (session : Session) (lobby : Lobby) (now : Nat) :
    Session × List Packet :=
  session.renderEvents lobby now session.events

end Netplay.Session
