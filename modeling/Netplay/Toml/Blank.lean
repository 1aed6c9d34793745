/-
Module: Netplay.Toml.Blank
Purpose: What stands between the values of a TOML document: spaces, line
  ends and comments.
Main exports:
  Toml.Reader, Toml.skipSpaces, Toml.lineEnd, Toml.skipComment,
  Toml.restOfLine, Toml.skipBlank
-/

namespace Netplay.Toml

/-- A reader takes characters off the front of a text and gives what it read
and the rest, or nothing if the text does not start as it should. -/
abbrev Reader (α : Type) := List Char → Option (α × List Char)

/-- A space or a tab. -/
def isSpace (c : Char) : Bool := c == ' ' || c == '\t'

/-- A character that may stand in a comment or between quotes: any but the
control characters, of which the tab alone is allowed. -/
def isPrintable (c : Char) : Bool :=
  c == '\t' || ('\x20' ≤ c && c ≤ '\x7e') || '\u0080' ≤ c

/-- The text after its leading spaces and tabs. -/
def skipSpaces (text : List Char) : List Char := text.dropWhile isSpace

/-- Exactly this character. -/
def expect (wanted : Char) : Reader Unit
  | c :: rest => if c = wanted then some ((), rest) else none
  | [] => none

/-- A line feed, alone or after a carriage return. -/
def lineFeed : List Char → Option (List Char)
  | '\n' :: rest => some rest
  | '\r' :: '\n' :: rest => some rest
  | _ => none

/-- A line feed or the end of the text. -/
def lineEnd : List Char → Option (List Char)
  | [] => some []
  | text => lineFeed text

/-- The text after a comment, if one stands at its front. -/
def skipComment : List Char → List Char
  | '#' :: rest => rest.dropWhile isPrintable
  | text => text

/-- The next line, if this one holds nothing more than spaces and a
comment. -/
def restOfLine (text : List Char) : Option (List Char) :=
  lineEnd (skipComment (skipSpaces text))

/-- The text after spaces, line feeds and comments; a comment counts only
with the line feed that ends it.  `within` says that a comment is open. -/
def skipBlankFrom : Bool → List Char → List Char
  | false, '#' :: rest => skipBlankFrom true rest
  | _, '\n' :: rest => skipBlankFrom false rest
  | _, '\r' :: '\n' :: rest => skipBlankFrom false rest
  | within, c :: rest =>
    if isSpace c || (within && isPrintable c) then skipBlankFrom within rest
    else c :: rest
  | _, [] => []

/-- The text after spaces, line feeds and comments. -/
def skipBlank (text : List Char) : List Char := skipBlankFrom false text

end Netplay.Toml
