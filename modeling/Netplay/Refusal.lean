/-
Module: Netplay.Refusal
Purpose: Why an operation on users and games is refused, and what every
  operation leaves behind.
Main exports:
  LoginFault, DataFault, Objection, Refusal, Refusal.message, Step
-/
import Netplay.Event

namespace Netplay

/-- Why a login is refused. -/
inductive LoginFault where
  | emptyName
  | nameTooLong (limit : Nat)
  | illegalName
  | emulatorTooLong (limit : Nat)
  | badConnectionType (connectionType : UInt8)
  | pingTooHigh (ping limit : UInt32)
  /-- The host is logged in under another name. -/
  | hostInUse (name : String)
deriving Repr, Inhabited, DecidableEq

/-- The text of a login fault. -/
def LoginFault.message : LoginFault → String
  | emptyName => "Empty name"
  | nameTooLong limit => s!"Name longer than {limit} characters"
  | illegalName => "Illegal characters in name"
  | emulatorTooLong limit => s!"Emulator name longer than {limit} characters"
  | badConnectionType connectionType =>
      s!"Invalid connection type {connectionType.toNat}"
  | pingTooHigh ping limit =>
      s!"Ping {ping.toNat} ms exceeds the {limit.toNat} ms limit"
  | hostInUse name => "Address already logged in as " ++ name

/-- What is wrong with a message of input. -/
inductive DataFault where
  /-- The game takes no actions. -/
  | noActions
  /-- The input cannot be divided into that many actions. -/
  | tooShort (length actions : Nat)
deriving Repr, Inhabited, DecidableEq

/-- The text of a data fault. -/
def DataFault.message : DataFault → String
  | noActions => "no actions per message"
  | tooShort length actions =>
      s!"{length} bytes cannot hold {actions} actions"

/-- Rules of the house. -/
inductive Objection where
  | kickedFrom (game : String)
  | noPlayers
  | connectionTypesDiffer
  | kickSelf
  | emptyMessage
  | tooManyGames
deriving Repr, Inhabited, DecidableEq

/-- The text of an objection. -/
def Objection.message : Objection → String
  | kickedFrom game => "You were kicked from " ++ game
  | noPlayers => "No players in game"
  | connectionTypesDiffer => "Connection types do not match"
  | kickSelf => "You cannot kick yourself"
  | emptyMessage => "Empty message"
  | tooManyGames => "Too many games"

/-- Why an operation on users and games is refused. -/
inductive Refusal where
  | serverFull
  | notLoggedIn (user : UserId)
  | alreadyLoggedIn (user : UserId)
  | loginDenied (fault : LoginFault)
  | userNotFound (user : UserId)
  | gameNotFound (game : GameId)
  | notInGame (user : UserId)
  | alreadyInGame (user : UserId)
  | gameFull (game : GameId)
  | notOwner (game : GameId)
  | wrongStatus (game : GameId) (status : GameStatus)
  | invalidPlayerNumber (player : UInt8)
  | dataRejected (fault : DataFault)
  | desynched (game : GameId)
  | denied (objection : Objection)
deriving Repr, Inhabited, DecidableEq

/-- The text of a refusal. -/
def Refusal.message : Refusal → String
  | serverFull => "server is full"
  | notLoggedIn user => s!"user {user.toNat} is not logged in"
  | alreadyLoggedIn user => s!"user {user.toNat} is already logged in"
  | loginDenied fault => "login denied: " ++ fault.message
  | userNotFound user => s!"user {user.toNat} not found"
  | gameNotFound game => s!"game {game.toNat} not found"
  | notInGame user => s!"user {user.toNat} is not in a game"
  | alreadyInGame user => s!"user {user.toNat} is already in a game"
  | gameFull game => s!"game {game.toNat} is full"
  | notOwner game => s!"only the owner of game {game.toNat} may do that"
  | wrongStatus game status => s!"game {game.toNat} is " ++ status.word
  | invalidPlayerNumber player => s!"invalid player number {player.toNat}"
  | dataRejected fault => "game data rejected: " ++ fault.message
  | desynched game => s!"game {game.toNat} is desynched"
  | denied objection => objection.message

/-- What an operation leaves behind: the new state, the letters it sends in
order, and its result.  An operation may send letters and still be refused. -/
structure Step (σ α : Type) where
  state : σ
  letters : List Letter
  result : Except Refusal α

namespace Step

variable {σ τ α β : Type}

/-- The operation is refused and nothing happens. -/
def refuse (state : σ) (refusal : Refusal) : Step σ α :=
  ⟨state, [], .error refusal⟩

/-- The operation succeeds. -/
def done (state : σ) (letters : List Letter) (value : α) : Step σ α :=
  ⟨state, letters, .ok value⟩

/-- The same step with other letters before its own. -/
def after (step : Step σ α) (earlier : List Letter) : Step σ α :=
  { step with letters := earlier ++ step.letters }

end Step

end Netplay
