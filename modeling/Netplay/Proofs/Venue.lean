/-
Module: Netplay.Proofs.Venue
Purpose: Everything that can happen to a lobby, in any order: users come, play
  and go, their input is merged, and time passes.
Main exports:
  Venue, Venue.Move, Venue.opened, Venue.step, Venue.run
-/
import Netplay.Lobby.Clock
import Netplay.Lobby.Login

namespace Netplay

/-- A lobby on a clock. -/
structure Venue where
  lobby : Lobby
  now : Nat
  /-- The ticket of the next merge. -/
  nextTicket : Nat
  /-- The number of games created so far. -/
  created : Nat

namespace Venue

/-- One thing that happens to a lobby.  Whatever users do, any number may do at
any time, whether somebody has it or not. -/
inductive Move where
  | connect (address : Address) (protocol : String)
  /-- A client says who it is. -/
  | introduce (user : UserId) (name emulator : String) (connectionType : UInt8)
  /-- The ping of a client is known. -/
  | measure (user : UserId) (ping : UInt32)
  | login (user : UserId)
  | quit (user : UserId) (message : String)
  | chat (user : UserId) (message : String)
  | create (user : UserId) (name : String)
  | join (user : UserId) (game : GameId)
  /-- A user leaves the game it is in. -/
  | leave (user : UserId)
  | start (user : UserId)
  | ready (user : UserId)
  | drop (user : UserId)
  | kick (user target : UserId)
  | gameChat (user : UserId) (message : String)
  /-- A gap in the messages of a user. -/
  | gap (user : UserId)
  /-- A user hands in a message of input. -/
  | input (user : UserId) (data : Bytes)
  /-- A parked merge of a game, live or closed, is retried. -/
  | retry (game : GameId) (ticket : Nat)
  /-- Time passes. -/
  | pass (milliseconds : Nat)
deriving Repr, DecidableEq

/-- A lobby without users and games, at time zero. -/
def opened (settings : Settings) : Venue := ⟨.empty settings, 0, 0, 0⟩

/-- The same venue with another lobby. -/
def become (venue : Venue) (lobby : Lobby) : Venue := { venue with lobby := lobby }

/-- Create a game, and count it once it is there. -/
def create (venue : Venue) (user : UserId) (name : String) : Venue :=
  let after := (venue.lobby.createGame user name).state
  { venue.become after with
    created :=
      if after.nextGame = venue.lobby.nextGame then venue.created else venue.created + 1 }

/-- Hand in a message of input. -/
def input (venue : Venue) (user : UserId) (data : Bytes) : Venue :=
  { venue.become (venue.lobby.addGameData venue.now venue.nextTicket user data).1 with
    nextTicket := venue.nextTicket + 1 }

/-- Retry a parked merge, if its queue has changed or its time has run out. -/
def retry (venue : Venue) (number : GameId) (ticket : Nat) : Venue :=
  match venue.lobby.allGames.find? (·.id = number) with
  | none => venue
  | some game =>
      match game.inFlight.find? (·.merge.ticket = ticket) with
      | none => venue
      | some parked =>
          if parked ∈ game.woken ∨ parked.deadline ≤ venue.now then
            venue.become (venue.lobby.withRoom
              (((venue.lobby.room game).unpark ticket).resume venue.now parked).1)
          else venue

/-- What one move makes of the venue. -/
def step (venue : Venue) : Move → Venue
  | .connect address protocol => venue.become (venue.lobby.connect address protocol).state
  | .introduce user name emulator connectionType =>
      venue.become
        { venue.lobby with
          people := venue.lobby.people.update user
            (·.introduce name emulator connectionType) }
  | .measure user ping =>
      venue.become
        { venue.lobby with
          people := venue.lobby.people.update user ({ · with ping := ping }) }
  | .login user => venue.become (venue.lobby.login user).state
  | .quit user message => venue.become (venue.lobby.quit user message).state
  | .chat user message => venue.become (venue.lobby.chat user message).state
  | .create user name => venue.create user name
  | .join user game => venue.become (venue.lobby.joinGame user game).state
  | .leave user => venue.become (venue.lobby.quitGame user).state
  | .start user => venue.become (venue.lobby.startGame user).state
  | .ready user => venue.become (venue.lobby.ready user).state
  | .drop user => venue.become (venue.lobby.dropGame user).state
  | .kick user target => venue.become (venue.lobby.kick user target).state
  | .gameChat user message => venue.become (venue.lobby.gameChat user message).state
  | .gap user => venue.become (venue.lobby.droppedPacket user).1
  | .input user data => venue.input user data
  | .retry game ticket => venue.retry game ticket
  | .pass milliseconds => { venue with now := venue.now + milliseconds }

/-- What a row of moves makes of the venue. -/
def run (venue : Venue) : List Move → Venue
  | [] => venue
  | move :: rest => (venue.step move).run rest

end Venue

end Netplay
