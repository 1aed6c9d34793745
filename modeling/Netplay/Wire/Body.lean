/-
Module: Netplay.Wire.Body
Purpose: The bodies of all messages that the relay sends.
Main exports:
  Body.serverAck, Body.connectionRejected, Body.informationMessage,
  Body.userQuit, Body.userJoined, Body.chat, Body.newGame, Body.quitGame,
  Body.joinGame, Body.playerInformation, Body.gameStatus, Body.closeGame,
  Body.startGame, Body.gameData, Body.cachedGameData, Body.playerDrop,
  Body.allReady, Body.serverStatus
-/
import Netplay.Event
import Netplay.Wire.Field

namespace Netplay.Body

open Netplay.Field

/-- The empty text that opens most bodies. -/
def blank : Bytes := [0]

/-- Acknowledgement: the numbers 0 to 3. -/
def serverAck : Bytes :=
  blank ++ [0, 1, 2, 3].flatMap fun n : UInt32 => Bytes.ofUInt32 n

/-- Rejected login: name, user number and reason. -/
def connectionRejected (name : String) (id : UserId) (reason : String) : Bytes :=
  putText name ++ Bytes.ofUInt16 id ++ putText reason

/-- Notice to one user: source and message. -/
def informationMessage (source message : String) : Bytes :=
  putText source ++ putText message

/-- A user left: name, user number and parting message. -/
def userQuit (name : String) (id : UserId) (message : String) : Bytes :=
  putText name ++ Bytes.ofUInt16 id ++ putText message

/-- A user logged in: name, user number, ping and connection type. -/
def userJoined (user : User) : Bytes :=
  putText user.name ++ Bytes.ofUInt16 user.id ++ Bytes.ofUInt32 user.ping ++
    [user.connectionType]

/-- A chat line: name and message. -/
def chat (name message : String) : Bytes :=
  putText name ++ putText message

/-- A new game: owner, game name, emulator and game number. -/
def newGame (game : GameSummary) : Bytes :=
  putText game.ownerName ++ putText game.name ++ putText game.emulator ++
    Bytes.ofUInt32 game.id

/-- A user left a game: name and user number. -/
def quitGame (name : String) (id : UserId) : Bytes :=
  putText name ++ Bytes.ofUInt16 id

/-- A user joined a game: game number, name, ping, user number and connection
type. -/
def joinGame (game : GameId) (user : User) : Bytes :=
  blank ++ Bytes.ofUInt32 game ++ putText user.name ++
    Bytes.ofUInt32 user.ping ++ Bytes.ofUInt16 user.id ++ [user.connectionType]

/-- One entry of a player list: name, ping, user number and connection type. -/
def playerEntry (user : User) : Bytes :=
  putText user.name ++ Bytes.ofUInt32 user.ping ++ Bytes.ofUInt16 user.id ++
    [user.connectionType]

/-- The other players of a game: their number and an entry for each. -/
def playerInformation (players : List User) : Bytes :=
  blank ++ Bytes.ofUInt32 (UInt32.ofNat players.length) ++
    players.flatMap playerEntry

/-- The state of a game: game number, status and player counts. -/
def gameStatus (game : GameSummary) : Bytes :=
  blank ++ Bytes.ofUInt32 game.id ++
    [game.status.code, game.players, game.maxPlayers]

/-- A closed game: its number. -/
def closeGame (game : GameId) : Bytes :=
  blank ++ Bytes.ofUInt32 game

/-- The start of a game: frame delay, the recipient's player number and the
number of players. -/
def startGame (frameDelay : UInt16) (player players : UInt8) : Bytes :=
  blank ++ Bytes.ofUInt16 frameDelay ++ [player, players]

/-- Merged input: its length, cut to sixteen bits, and the input. -/
def gameData (frame : Bytes) : Bytes :=
  blank ++ Bytes.ofUInt16 (UInt16.ofNat frame.length) ++ frame

/-- Merged input that the recipient holds in a cache slot. -/
def cachedGameData (slot : UInt8) : Bytes :=
  blank ++ [slot]

/-- A player stopped playing: name and player number. -/
def playerDrop (name : String) (player : UInt8) : Bytes :=
  putText name ++ [player]

/-- Every player is ready. -/
def allReady : Bytes := blank

/-- One entry of the user list: name, ping, status, user number and connection
type. -/
def userEntry (user : User) : Bytes :=
  putText user.name ++ Bytes.ofUInt32 user.ping ++ [user.status.code] ++
    Bytes.ofUInt16 user.id ++ [user.connectionType]

/-- The text of the player counts of a game. -/
def playerCounts (game : GameSummary) : String :=
  s!"{game.players.toNat}/{game.maxPlayers.toNat}"

/-- One entry of the game list: name, game number, emulator, owner, player
counts as text and status. -/
def gameEntry (game : GameSummary) : Bytes :=
  putText game.name ++ Bytes.ofUInt32 game.id ++ putText game.emulator ++
    putText game.ownerName ++ putText (playerCounts game) ++ [game.status.code]

/-- Everyone and every game at the relay: the two counts, then the entries. -/
def serverStatus (users : List User) (games : List GameSummary) : Bytes :=
  blank ++ Bytes.ofUInt32 (UInt32.ofNat users.length) ++
    Bytes.ofUInt32 (UInt32.ofNat games.length) ++ users.flatMap userEntry ++
    games.flatMap gameEntry

end Netplay.Body
