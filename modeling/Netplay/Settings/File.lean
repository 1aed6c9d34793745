/-
Module: Netplay.Settings.File
Purpose: Settings as written in a file.
Main exports:
  Settings.ofFile?, Settings.load
-/
import Netplay.Settings
import Netplay.Text.Utf8
import Netplay.Toml.Document

namespace Netplay.Settings

open Toml (Value)

/-- A whole number up to a limit. -/
def natural? (limit : Nat) : Value → Option Nat
  | .integer value =>
    if 0 ≤ value ∧ value ≤ limit then some value.toNat else none
  | _ => none

/-- The largest size and the largest span of time, those of a signed word. -/
def sizeLimit : Nat := Int64.maxValue.toInt.toNat

def size? : Value → Option Nat := natural? sizeLimit

def port? (value : Value) : Option Port := do
  return UInt16.ofNat (← natural? 0xFFFF value)

def text? : Value → Option String
  | .text text => some text
  | _ => none

def flag? : Value → Option Bool
  | .boolean value => some value
  | _ => none

def texts? : Value → Option (List String)
  | .array items => items.mapM text?
  | _ => none

/-- One setting of a section: by its name in a table and by its place in an
array.  One that is missing keeps its default; a date has no settings, so
all of them are missing, and any other value is no section. -/
def setting (section? : Value) (place : Nat) (name : String)
    (read : Value → Option α) (default : α) : Option α :=
  let found : Option (Option Value) :=
    match section? with
    | .table _ fields => some (Toml.Fields.find? name fields)
    | .array items => some items[place]?
    | .tables rows => some (rows[place]?.map (.table .header))
    | .moment _ => some none
    | _ => none
  match found with
  | none => none
  | some none => some default
  | some (some value) => read value

def connect? (given : Value) : Option ConnectSettings := do
  let default : ConnectSettings := {}
  return {
    port := ← setting given 0 "port" port? default.port
    bindAddress := ← setting given 1 "bind_address" text? default.bindAddress
    bufferSize := ← setting given 2 "buffer_size" size? default.bufferSize }

def session? (given : Value) : Option SessionSettings := do
  let default : SessionSettings := {}
  return {
    firstPort := ← setting given 0 "port_range_start" port? default.firstPort
    extraPorts := ← setting given 1 "extra_ports" size? default.extraPorts
    bufferSize := ← setting given 2 "buffer_size" size? default.bufferSize
    protocols := ← setting given 3 "client_types" texts? default.protocols }

def server? (given : Value) : Option ServerSettings := do
  let default : ServerSettings := {}
  return {
    name := ← setting given 0 "server_name" text? default.name
    maxUsers := ← setting given 1 "max_users" size? default.maxUsers
    maxPing := ← setting given 2 "max_ping"
      (fun value => do return UInt32.ofNat (← natural? 0xFFFFFFFF value)) default.maxPing
    maxGames := ← setting given 3 "max_games" size? default.maxGames
    welcomeMessages := ← setting given 4 "welcome_messages" texts? default.welcomeMessages
    keepaliveSeconds :=
      ← setting given 5 "keepalive_timeout_secs" size? default.keepaliveSeconds
    maxUserName := ← setting given 6 "max_user_name_length" size? default.maxUserName
    maxEmulatorName :=
      ← setting given 7 "max_client_name_length" size? default.maxEmulatorName
    allowSharedHost :=
      ← setting given 8 "allow_multiple_connections" flag? default.allowSharedHost }

def game? (given : Value) : Option GameSettings := do
  let default : GameSettings := {}
  return {
    bufferSize := ← setting given 0 "buffer_size" size? default.bufferSize
    timeoutMillis := ← setting given 1 "timeout_millis" size? default.timeoutMillis
    desynchTimeouts :=
      ← setting given 2 "desynch_timeouts" (natural? 0xFFFFFFFF) default.desynchTimeouts
    maxPlayers := ← setting given 3 "max_players"
      (fun value => do return UInt8.ofNat (← natural? 0xFF value)) default.maxPlayers }

def log? (given : Value) : Option LogSettings := do
  let default : LogSettings := {}
  return {
    format := ← setting given 0 "format" text? default.format
    level := ← setting given 1 "level" text? default.level }

/-- The settings in a table: sections by name, in which names that mean
nothing are passed over. -/
def ofTable? (given : Value) : Option Settings := do
  return {
    connect := ← setting given 0 "connect" connect? {}
    session := ← setting given 1 "v086" session? {}
    server := ← setting given 2 "server" server? {}
    game := ← setting given 3 "game" game? {}
    log := ← setting given 4 "tracing" log? {} }

/-- The settings that the bytes of a file write, if the file is well formed
and every setting has its kind and keeps its limits. -/
def ofFile? (bytes : Bytes) : Option Settings := do
  ofTable? (.table .header (← Toml.parse (← Utf8.decode? bytes)))

/-- The settings of a file: the defaults, if there is none or it cannot be
used. -/
def load (file : Option Bytes) : Settings := (file.bind ofFile?).getD {}

end Netplay.Settings
