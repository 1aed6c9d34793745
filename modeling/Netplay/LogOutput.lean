/-
Module: Netplay.LogOutput
Purpose: The forms and levels of log output and the words for them.
Main exports:
  LogFormat, LogLevel, LogError, LogFormat.parse, LogLevel.parse
-/
import Netplay.Text.Lowercase

namespace Netplay

/-- The forms of log output. -/
inductive LogFormat where
  | compact
  | pretty
  | json
deriving Repr, Inhabited, DecidableEq

/-- The levels of log output. -/
inductive LogLevel where
  | trace
  | debug
  | info
  | warn
  | error
deriving Repr, Inhabited, DecidableEq

/-- A word that names no form, or no level; it is given in lower case. -/
inductive LogError where
  | unknownFormat (word : String)
  | unknownLevel (word : String)
deriving Repr, Inhabited, DecidableEq

/-- The text of a log error. -/
def LogError.message : LogError → String
  | unknownFormat word => "unknown log format: " ++ word
  | unknownLevel word => "unknown log level: " ++ word

/-- The word for a level. -/
def LogLevel.word : LogLevel → String
  | trace => "trace"
  | debug => "debug"
  | info => "info"
  | warn => "warn"
  | error => "error"

/-- The form that a word names in any case. -/
def LogFormat.parse (text : String) : Except LogError LogFormat :=
  match Text.lowercase text with
  | "compact" => .ok .compact
  | "pretty" => .ok .pretty
  | "json" => .ok .json
  | word => .error (.unknownFormat word)

/-- The level that a word names in any case. -/
def LogLevel.parse (text : String) : Except LogError LogLevel :=
  match Text.lowercase text with
  | "trace" => .ok .trace
  | "debug" => .ok .debug
  | "info" => .ok .info
  | "warn" => .ok .warn
  | "error" => .ok .error
  | word => .error (.unknownLevel word)

end Netplay
