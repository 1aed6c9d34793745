/-
Module: Netplay.Event
Purpose: What happens at the relay, as told to the users it concerns.
Main exports:
  GameStatus, GameSummary, ServerEvent, GameEvent, UserEvent, Event, Letter
-/
import Netplay.Bytes
import Netplay.User

namespace Netplay

/-!
Operations do not send anything themselves.  They tell events to users, each
as a letter; the session of the recipient later turns its letters into
messages.  Users and games appear in events as they were at that moment.
-/

/-- The stages of a game. -/
inductive GameStatus where
  | waiting
  | playing
  | synchronizing
deriving Repr, Inhabited, DecidableEq

namespace GameStatus

/-- The byte of a game status. -/
def code : GameStatus → UInt8
  | waiting => 0
  | playing => 1
  | synchronizing => 2

/-- The word for a game status. -/
def word : GameStatus → String
  | waiting => "waiting"
  | playing => "playing"
  | synchronizing => "synchronizing"

end GameStatus

/-- A game as it is shown to everyone at the relay. -/
structure GameSummary where
  id : GameId
  name : String
  emulator : String
  owner : UserId
  ownerName : String
  status : GameStatus
  players : UInt8
  maxPlayers : UInt8
deriving Repr, Inhabited, DecidableEq

/-- Events for everyone logged in. -/
inductive ServerEvent where
  | chat (user : User) (message : String)
  | userJoined (user : User)
  | userQuit (user : User) (message : String)
  | gameCreated (game : GameSummary)
  | gameClosed (game : GameId)
  | gameStatusChanged (game : GameSummary)
deriving Repr, Inhabited, DecidableEq

/-- Events for the members of one game. -/
inductive GameEvent where
  /-- A user joined; `players` are all members after that, in order. -/
  | userJoined (user : User) (players : List User)
  | userQuit (user : User)
  | started (players : UInt8)
  | allReady
  | userDropped (user : User) (player : UInt8)
  | chat (user : User) (message : String)
  /-- One frame of merged input, for the user who sent the last part. -/
  | data (frame : Bytes)
  | info (message : String)
  | timeout (user : User) (number : Nat)
  | playerDesynch (user : User) (message : String)
  | desynch (message : String)
deriving Repr, Inhabited, DecidableEq

/-- Events for one user. -/
inductive UserEvent where
  /-- The login is complete. -/
  | connected
  | infoMessage (source message : String)
deriving Repr, Inhabited, DecidableEq

/-- Anything that can be told to a user. -/
inductive Event where
  | server (event : ServerEvent)
  | game (game : GameId) (event : GameEvent)
  | user (event : UserEvent)
deriving Repr, Inhabited, DecidableEq

/-- The notice that an event shows in the chat of a game, if it shows one. -/
def GameEvent.notice? : GameEvent → Option String
  | info message => some message
  | playerDesynch _ message => some message
  | desynch message => some message
  | timeout user number =>
      some (user.name ++ s!" is lagging (timeout #{number})")
  | _ => none

/-- An event on its way to one user. -/
structure Letter where
  recipient : UserId
  event : Event
deriving Repr, Inhabited, DecidableEq

/-- The same event for several users. -/
def Letter.toAll (recipients : List UserId) (event : Event) : List Letter :=
  recipients.map fun recipient => ⟨recipient, event⟩

namespace ServerEvent

/-- The kinds of server event. -/
inductive Kind where
  | chat
  | userJoined
  | userQuit
  | gameCreated
  | gameClosed
  | gameStatusChanged
deriving Repr, Inhabited, DecidableEq

/-- The kind of a server event. -/
def kind : ServerEvent → Kind
  | chat _ _ => .chat
  | userJoined _ => .userJoined
  | userQuit _ _ => .userQuit
  | gameCreated _ => .gameCreated
  | gameClosed _ => .gameClosed
  | gameStatusChanged _ => .gameStatusChanged

/-- The name of a kind of server event. -/
def Kind.name : Kind → String
  | chat => "Chat"
  | userJoined => "UserJoined"
  | userQuit => "UserQuit"
  | gameCreated => "GameCreated"
  | gameClosed => "GameClosed"
  | gameStatusChanged => "GameStatusChanged"

/-- All kinds of server event. -/
def Kind.all : List Kind :=
  [chat, userJoined, userQuit, gameCreated, gameClosed, gameStatusChanged]

end ServerEvent

namespace GameEvent

/-- The kinds of game event. -/
inductive Kind where
  | userJoined
  | userQuit
  | started
  | allReady
  | userDropped
  | chat
  | data
  | info
  | timeout
  | playerDesynch
  | desynch
deriving Repr, Inhabited, DecidableEq

/-- The kind of a game event. -/
def kind : GameEvent → Kind
  | userJoined _ _ => .userJoined
  | userQuit _ => .userQuit
  | started _ => .started
  | allReady => .allReady
  | userDropped _ _ => .userDropped
  | chat _ _ => .chat
  | data _ => .data
  | info _ => .info
  | timeout _ _ => .timeout
  | playerDesynch _ _ => .playerDesynch
  | desynch _ => .desynch

/-- The name of a kind of game event. -/
def Kind.name : Kind → String
  | userJoined => "UserJoinedGame"
  | userQuit => "UserQuitGame"
  | started => "GameStarted"
  | allReady => "AllReady"
  | userDropped => "UserDropped"
  | chat => "GameChat"
  | data => "GameData"
  | info => "GameInfo"
  | timeout => "GameTimeout"
  | playerDesynch => "PlayerDesynch"
  | desynch => "GameDesynch"

/-- All kinds of game event. -/
def Kind.all : List Kind :=
  [userJoined, userQuit, started, allReady, userDropped, chat, data, info,
    timeout, playerDesynch, desynch]

end GameEvent

namespace UserEvent

/-- The kinds of user event. -/
inductive Kind where
  | connected
  | infoMessage
deriving Repr, Inhabited, DecidableEq

/-- The kind of a user event. -/
def kind : UserEvent → Kind
  | connected => .connected
  | infoMessage _ _ => .infoMessage

/-- The name of a kind of user event. -/
def Kind.name : Kind → String
  | connected => "Connected"
  | infoMessage => "InfoMessage"

/-- All kinds of user event. -/
def Kind.all : List Kind := [connected, infoMessage]

end UserEvent

end Netplay
