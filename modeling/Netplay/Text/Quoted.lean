/-
Module: Netplay.Text.Quoted
Purpose: Quoted text and lists of it, as shown in descriptions.
Main exports:
  Text.quoted, Text.quotedList
-/

namespace Netplay.Text

/-- A character inside double quotes: the quote and the backslash after a
backslash, and line breaks, tabs and NUL by their letters. -/
def quotedChar : Char → List Char
  | '"' => ['\\', '"']
  | '\\' => ['\\', '\\']
  | '\n' => ['\\', 'n']
  | '\r' => ['\\', 'r']
  | '\t' => ['\\', 't']
  | '\x00' => ['\\', '0']
  | c => [c]

/-- A text in double quotes. -/
def quoted (text : String) : String :=
  "\"" ++ String.ofList (text.toList.flatMap quotedChar) ++ "\""

/-- Quoted texts in brackets, separated by commas. -/
def quotedList (texts : List String) : String :=
  "[" ++ ", ".intercalate (texts.map quoted) ++ "]"

end Netplay.Text
