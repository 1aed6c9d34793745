/-
Module: Netplay.Session.Request
Purpose: What clients ask for, as read from the bodies of their messages.
Main exports:
  Request, Request.decode?, Request.isSome_decode?_iff
-/
import Netplay.Router
import Netplay.Wire.Field

namespace Netplay

/-- What a client asks for. -/
inductive Request where
  | login (name emulator : String) (connectionType : UInt8)
  /-- An answer in the speed test. -/
  | acknowledge
  | chat (message : String)
  | gameChat (message : String)
  | keepAlive
  | createGame (name : String)
  | joinGame (game : GameId)
  | quitGame
  | quit (message : String)
  | startGame
  | ready
  | kick (target : UserId)
  | input (data : Bytes)
  /-- Input that the client has sent before, by its slot. -/
  | cachedInput (slot : UInt8)
  | dropGame
deriving Repr, Inhabited, DecidableEq

namespace Request

open Netplay.Field

/-- Name, emulator and connection type. -/
def readLogin (body : Bytes) : Except FormatError Request := do
  let (name, rest) ← text body
  let (emulator, rest) ← text rest
  let (connectionType, _) ← u8 rest
  return .login name emulator connectionType

/-- A text that is left empty, and a message. -/
def readMessage (body : Bytes) : Except FormatError String := do
  let (_, rest) ← text body
  let (message, _) ← text rest
  return message

/-- An empty text, the name of the game, an empty text and four bytes. -/
def readCreateGame (body : Bytes) : Except FormatError Request := do
  let (_, rest) ← text body
  let (name, rest) ← text rest
  let (_, rest) ← text rest
  let (_, _) ← u32 rest
  return .createGame name

/-- An empty text and the number of the game; more may follow. -/
def readJoinGame (body : Bytes) : Except FormatError Request := do
  let (_, rest) ← text body
  let (game, _) ← u32 rest
  return .joinGame game

/-- An empty text, after which nothing matters. -/
def readBlank (request : Request) (body : Bytes) : Except FormatError Request := do
  let (_, _) ← text body
  return request

/-- An empty text, two bytes and the parting message. -/
def readQuit (body : Bytes) : Except FormatError Request := do
  let (_, rest) ← text body
  let (_, rest) ← u16 rest
  let (message, _) ← text rest
  return .quit message

/-- An empty text and the number of a user. -/
def readKick (body : Bytes) : Except FormatError Request := do
  let (_, rest) ← text body
  let (target, _) ← u16 rest
  return .kick target

/-- An empty text, a length and that many bytes. -/
def readInput (body : Bytes) : Except FormatError Request := do
  let (_, rest) ← text body
  let (length, rest) ← u16 rest
  let (data, _) ← bytes length.toNat rest
  return .input data

/-- An empty text and a slot. -/
def readCachedInput (body : Bytes) : Except FormatError Request := do
  let (_, rest) ← text body
  let (slot, _) ← u8 rest
  return .cachedInput slot

/-- Read the request of a message type; none if clients do not send that
type. -/
def ofCommand? : Command → Bytes → Option (Except FormatError Request)
  | .userLogin, body => some (readLogin body)
  | .clientAck, _ => some (.ok .acknowledge)
  | .globalChat, body => some ((readMessage body).map .chat)
  | .gameChat, body => some ((readMessage body).map .gameChat)
  | .keepAlive, _ => some (.ok .keepAlive)
  | .createGame, body => some (readCreateGame body)
  | .joinGame, body => some (readJoinGame body)
  | .quitGame, body => some (readBlank .quitGame body)
  | .userQuit, body => some (readQuit body)
  | .startGame, body => some (readBlank .startGame body)
  | .readyToPlay, _ => some (.ok .ready)
  | .kickUser, body => some (readKick body)
  | .gameData, body => some (readInput body)
  | .gameCache, body => some (readCachedInput body)
  | .dropGame, _ => some (.ok .dropGame)
  | _, _ => none

/-- Read the request in a message: none if no action answers its type. -/
def decode? (code : UInt8) (body : Bytes) : Option (Except FormatError Request) :=
  (Command.ofCode? code).bind fun command => ofCommand? command body

/-- A message holds a request, well formed or not, exactly when the router
has an action for its type. -/
theorem isSome_decode?_iff (code : UInt8) (body : Bytes) :
    (decode? code body).isSome = true ↔
      (Router.standard.action? code).isSome = true := by
  have routed :
      ∀ value : Fin 256,
        (Router.standard.action? (UInt8.ofNat value)).isSome =
          ((Command.ofCode? (UInt8.ofNat value)).bind
            fun command => if command ∈ Command.required then some () else none).isSome := by
    decide +kernel
  have at_code := routed ⟨code.toNat, code.toNat_lt⟩
  simp only [UInt8.ofNat_toNat] at at_code
  rw [at_code, decode?]
  cases Command.ofCode? code with
  | none => simp
  | some command =>
      cases command <;> simp [ofCommand?, Command.required]

end Request

end Netplay
