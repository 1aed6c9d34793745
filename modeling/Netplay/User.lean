/-
Module: Netplay.User
Purpose: Users of the relay and the people it knows, present or gone.
Main exports:
  UserId, GameId, Address, UserStatus, User, Roster, Roster.find?,
  Roster.byId, Roster.same?, Roster.update
-/
import Netplay.PortPool

namespace Netplay

/-- The number of a user. -/
abbrev UserId := UInt16

/-- The number of a game. -/
abbrev GameId := UInt32

/-- Where a datagram comes from or goes to. -/
structure Address where
  host : String
  port : Port
deriving Repr, Inhabited, DecidableEq

namespace Address

/-- An address as text: host, colon and port. -/
def text (address : Address) : String :=
  address.host ++ ":" ++ toString address.port.toNat

/-- The address with a given text.  The port follows the last colon, for a
host may hold colons of its own. -/
def ofText (text : String) : Address :=
  let chars := text.toList
  let port := (chars.reverse.takeWhile (· ≠ ':')).reverse
  ⟨String.ofList (chars.take (chars.length - port.length - 1)),
    UInt16.ofNat ((String.ofList port).toNat?.getD 0)⟩

end Address

/-- What a user is doing, as shown in the user list. -/
inductive UserStatus where
  | playing
  | idle
  | connecting
deriving Repr, Inhabited, DecidableEq

/-- The byte of a user status. -/
def UserStatus.code : UserStatus → UInt8
  | playing => 0
  | idle => 1
  | connecting => 2

/-- The word for a user status. -/
def UserStatus.word : UserStatus → String
  | playing => "Playing"
  | idle => "Idle"
  | connecting => "Connecting"

/-- One user.  The connection type is also the number of actions that the
user's client packs into one input message. -/
structure User where
  id : UserId
  address : Address
  protocol : String
  name : String
  emulator : String
  connectionType : UInt8
  ping : UInt32
  status : UserStatus
  loggedIn : Bool
  game : Option GameId
  player : UInt8
  /-- How many users had left when it came, which tells it from those that had
  its number before. -/
  serial : Nat := 0
deriving Repr, Inhabited, DecidableEq

namespace User

/-- A user that has connected and not logged in. -/
def connecting (id : UserId) (address : Address) (protocol : String) : User :=
  { id := id
    address := address
    protocol := protocol
    name := ""
    emulator := ""
    connectionType := 0
    ping := 0
    status := .connecting
    loggedIn := false
    game := none
    player := 0 }

/-- The user with what its client says about itself. -/
def introduce (user : User) (name emulator : String) (connectionType : UInt8) :
    User :=
  { user with
    name := name
    emulator := emulator
    connectionType := connectionType }

/-- The user once its login is complete. -/
def logIn (user : User) : User :=
  { user with loggedIn := true, status := .idle }

/-- The user as player number `player` of a game. -/
def enterGame (user : User) (game : GameId) (player : UInt8) : User :=
  { user with game := some game, player := player }

/-- The user out of any game. -/
def leaveGame (user : User) : User :=
  { user with game := none, player := 0, status := .idle }

end User

/-- Everyone the relay knows: the registered users and those who have left and
may still be named by something in flight. -/
structure Roster where
  /-- Registered users in the order they came. -/
  present : List User
  /-- Users who have left, the last one first. -/
  departed : List User
deriving Repr, Inhabited, DecidableEq

namespace Roster

/-- A roster of nobody. -/
def empty : Roster := ⟨[], []⟩

/-- The registered user with a given number. -/
def registered? (people : Roster) (id : UserId) : Option User :=
  people.present.find? (·.id = id)

/-- The user with a given number, registered or else the last to leave with
it. -/
def find? (people : Roster) (id : UserId) : Option User :=
  match people.registered? id with
  | some user => some user
  | none => people.departed.find? (·.id = id)

/-- The registered users by number. -/
def byId (people : Roster) : List User :=
  people.present.mergeSort fun a b => a.id ≤ b.id

/-- The very user with a given number and serial, registered or departed. -/
def same? (people : Roster) (id : UserId) (serial : Nat) : Option User :=
  (people.present ++ people.departed).find? fun user =>
    user.id = id && user.serial = serial

/-- Change the user with a given number, registered or else the last to leave
with it. -/
def update (people : Roster) (id : UserId) (change : User → User) : Roster :=
  if people.present.any (·.id = id) then
    { people with
      present := people.present.map fun user =>
        if user.id = id then change user else user }
  else
    { people with
      departed :=
        people.departed.modify (people.departed.findIdx (·.id = id)) change }

/-- Register a new user. -/
def register (people : Roster) (user : User) : Roster :=
  { people with
    present :=
      people.present ++ [{ user with serial := people.departed.length }] }

/-- Move a registered user to those who have left. -/
def depart (people : Roster) (user : User) : Roster :=
  { present := people.present.filter (·.id ≠ user.id)
    departed := user :: people.departed }

/-- The name of a user, empty for an unknown one. -/
def nameOf (people : Roster) (id : UserId) : String :=
  match people.find? id with
  | some user => user.name
  | none => ""

end Roster

end Netplay
