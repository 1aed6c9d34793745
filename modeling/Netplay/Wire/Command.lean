/-
Module: Netplay.Wire.Command
Purpose: The message types of protocol version 0.86 and their numbers.
Main exports:
  Command, Command.code, Command.name, Command.ofCode?, Command.required,
  Command.nameOfCode
-/
import Netplay.Bytes

namespace Netplay

/-- The message types a datagram may carry. -/
inductive Command where
  | userQuit
  | userJoined
  | userLogin
  | serverStatus
  | serverAck
  | clientAck
  | globalChat
  | gameChat
  | keepAlive
  | createGame
  | quitGame
  | joinGame
  | playerInformation
  | updateGameStatus
  | kickUser
  | closeGame
  | startGame
  | gameData
  | gameCache
  | dropGame
  | readyToPlay
  | connectionRejected
  | serverInformation
deriving Repr, Inhabited, DecidableEq

namespace Command

/-- The number of a message type on the wire. -/
def code : Command → UInt8
  | userQuit => 0x01
  | userJoined => 0x02
  | userLogin => 0x03
  | serverStatus => 0x04
  | serverAck => 0x05
  | clientAck => 0x06
  | globalChat => 0x07
  | gameChat => 0x08
  | keepAlive => 0x09
  | createGame => 0x0A
  | quitGame => 0x0B
  | joinGame => 0x0C
  | playerInformation => 0x0D
  | updateGameStatus => 0x0E
  | kickUser => 0x0F
  | closeGame => 0x10
  | startGame => 0x11
  | gameData => 0x12
  | gameCache => 0x13
  | dropGame => 0x14
  | readyToPlay => 0x15
  | connectionRejected => 0x16
  | serverInformation => 0x17

/-- The name shown for a message type. -/
def name : Command → String
  | userQuit => "UserQuit"
  | userJoined => "UserJoined"
  | userLogin => "UserLogin"
  | serverStatus => "ServerStatus"
  | serverAck => "ServerToClientACK"
  | clientAck => "ClientToServerACK"
  | globalChat => "GlobalChat"
  | gameChat => "GameChat"
  | keepAlive => "ClientKeepAlive"
  | createGame => "CreateGame"
  | quitGame => "QuitGame"
  | joinGame => "JoinGame"
  | playerInformation => "PlayerInformation"
  | updateGameStatus => "UpdateGameStatus"
  | kickUser => "KickUser"
  | closeGame => "CloseGame"
  | startGame => "StartGame"
  | gameData => "GameData"
  | gameCache => "GameCache"
  | dropGame => "DropGame"
  | readyToPlay => "ReadyToPlay"
  | connectionRejected => "ConnectionRejected"
  | serverInformation => "ServerInformation"

/-- All message types, by number. -/
def all : List Command :=
  [userQuit, userJoined, userLogin, serverStatus, serverAck, clientAck,
    globalChat, gameChat, keepAlive, createGame, quitGame, joinGame,
    playerInformation, updateGameStatus, kickUser, closeGame, startGame,
    gameData, gameCache, dropGame, readyToPlay, connectionRejected,
    serverInformation]

/-- The message type with a given number. -/
def ofCode? (code : UInt8) : Option Command :=
  all.find? fun command => command.code = code

/-- A number is known when some message type has it: 0x01 to 0x17. -/
def isKnown (code : UInt8) : Bool :=
  0x01 ≤ code && code ≤ 0x17

/-- The name of the message type with a given number, `Unknown` for the rest. -/
def nameOfCode (code : UInt8) : String :=
  match ofCode? code with
  | some command => command.name
  | none => "Unknown"

/-- The message types a client may send, in the order in which missing ones
are reported. -/
def required : List Command :=
  [userLogin, clientAck, globalChat, createGame, joinGame, keepAlive, quitGame,
    userQuit, startGame, gameChat, kickUser, readyToPlay, gameCache, gameData,
    dropGame]

theorem ofCode?_code (command : Command) :
    ofCode? command.code = some command := by
  cases command <;> rfl

/-- A known number is the number of some message type, and only those are. -/
theorem isKnown_iff (number : UInt8) :
    isKnown number = true ↔ (ofCode? number).isSome = true := by
  have byValue :
      ∀ value : Fin 256,
        isKnown (UInt8.ofNat value) = true ↔
          (ofCode? (UInt8.ofNat value)).isSome = true := by
    decide +kernel
  simpa using byValue ⟨number.toNat, number.toNat_lt⟩

end Command

end Netplay
