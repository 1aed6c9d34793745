/-
Module: Netplay.Settings
Purpose: The settings of a relay and their defaults.
Main exports:
  ConnectSettings, SessionSettings, ServerSettings, GameSettings,
  LogSettings, Settings
-/
import Netplay.PortPool

namespace Netplay

/-- The well-known port. -/
structure ConnectSettings where
  port : Port := 27888
  bindAddress : String := "0.0.0.0"
  /-- The longest datagram taken in, in bytes. -/
  bufferSize : Nat := 1024
deriving Repr, Inhabited, DecidableEq

/-- The ports of sessions and the protocols they speak. -/
structure SessionSettings where
  firstPort : Port := 27889
  /-- Ports beyond one for each user. -/
  extraPorts : Nat := 10
  /-- The longest datagram taken in, in bytes. -/
  bufferSize : Nat := 2048
  protocols : List String := ["0.83"]
deriving Repr, Inhabited, DecidableEq

/-- Who may use the relay. -/
structure ServerSettings where
  name : String := "Kaillera Relay"
  maxUsers : Nat := 25
  /-- Milliseconds; a login with a longer ping is refused, and resends keep
  this distance.  Zero lets every ping log in. -/
  maxPing : UInt32 := 250
  /-- Zero sets no limit. -/
  maxGames : Nat := 0
  welcomeMessages : List String := ["Welcome to the server!"]
  /-- Seconds of silence after which a session ends. -/
  keepaliveSeconds : Nat := 190
  /-- In characters; zero sets no limit. -/
  maxUserName : Nat := 45
  /-- In characters of the emulator name; zero sets no limit. -/
  maxEmulatorName : Nat := 100
  /-- Whether one host may log in under several names at once. -/
  allowSharedHost : Bool := true
deriving Repr, Inhabited, DecidableEq

/-- How games run. -/
structure GameSettings where
  /-- Bytes of input held for each player of a game. -/
  bufferSize : Nat := 1024
  /-- Milliseconds a merge waits for the input of one player. -/
  timeoutMillis : Nat := 1250
  /-- Time-outs after which a lagging player is put out of synchrony. -/
  desynchTimeouts : Nat := 4
  maxPlayers : UInt8 := 4
deriving Repr, Inhabited, DecidableEq

/-- The wanted log output, as written in the settings. -/
structure LogSettings where
  format : String := "compact"
  level : String := "info"
deriving Repr, Inhabited, DecidableEq

/-- All settings of a relay. -/
structure Settings where
  connect : ConnectSettings := {}
  session : SessionSettings := {}
  server : ServerSettings := {}
  game : GameSettings := {}
  log : LogSettings := {}
deriving Repr, Inhabited, DecidableEq

namespace Settings

/-- The number of ports for sessions, added up in sixty-four bits. -/
def portPoolSize (settings : Settings) : Nat :=
  (UInt64.ofNat settings.server.maxUsers +
    UInt64.ofNat settings.session.extraPorts).toNat

end Settings

/-- The silence after which a session ends, in milliseconds. -/
def ServerSettings.keepaliveMillis (settings : ServerSettings) : Nat :=
  settings.keepaliveSeconds * 1000

end Netplay
