/-
Module: Netplay.Toml.Document
Purpose: Reading a TOML document.
Main exports:
  Toml.key, Toml.value, Toml.parse
-/
import Netplay.Toml.Moment
import Netplay.Toml.Insert

namespace Netplay.Toml

/-- The most names of one key, and the most arrays and braces around a
value. -/
def depthLimit : Nat := 79

/-- A character of an unquoted name. -/
def isBare (c : Char) : Bool := c.isAlphanum || c == '_' || c == '-'

/-- One name of a key. -/
def keyName (text : List Char) : Option (String × List Char) :=
  match text with
  | '"' :: _ => (basicText text).map fun (name, rest) => (String.ofList name, rest)
  | '\x27' :: _ => (literalText text).map fun (name, rest) => (String.ofList name, rest)
  | _ =>
    let name := text.takeWhile isBare
    if name.isEmpty then none
    else some (String.ofList name, text.dropWhile isBare)

/-- Names joined by points, at most `limit` of them, with spaces around
each. -/
def keyNames : Nat → Reader (List String)
  | 0, _ => none
  | limit + 1, text => do
    let (name, rest) ← keyName (skipSpaces text)
    match skipSpaces rest with
    | '.' :: later => do
      let (names, rest) ← keyNames limit later
      return (name :: names, rest)
    | rest => some ([name], rest)

/-- A plain or dotted key and the spaces around it. -/
def key : Reader (List String) := keyNames depthLimit

/-- A key, an equals sign and a value. -/
def pair (value : Reader Value) (text : List Char) :
    Option ((List String × Value) × List Char) := do
  let (key, rest) ← key text
  let (_, rest) ← expect '=' rest
  let (value, rest) ← value (skipSpaces rest)
  return ((key, value), rest)

/-- The rest of an array, up to its closing bracket; `fuel` bounds the number
of its items. -/
def items (value : Reader Value) : Nat → Reader (List Value)
  | 0, _ => none
  | fuel + 1, text =>
    match skipBlank text with
    | ']' :: rest => some ([], rest)
    | text => do
      let (first, rest) ← value text
      match skipBlank rest with
      | ']' :: rest => some ([first], rest)
      | ',' :: rest => do
        let (others, rest) ← items value fuel rest
        return (first :: others, rest)
      | _ => none

/-- The rest of the pairs in braces after the first one, up to the closing
brace; `fuel` bounds their number. -/
def morePairs (value : Reader Value) : Nat → Reader (List (List String × Value))
  | 0, _ => none
  | fuel + 1, text =>
    match skipSpaces text with
    | '\x7d' :: rest => some ([], rest)
    | ',' :: rest => do
      let (first, rest) ← pair value rest
      let (others, rest) ← morePairs value fuel rest
      return (first :: others, rest)
    | _ => none

/-- The pairs in braces, up to the closing brace. -/
def pairs (value : Reader Value) (text : List Char) :
    Option (List (List String × Value) × List Char) :=
  match skipSpaces text with
  | '\x7d' :: rest => some ([], rest)
  | text => do
    let (first, rest) ← pair value text
    let (others, rest) ← morePairs value (text.length + 1) rest
    return (first :: others, rest)

/-- A word and what follows it. -/
def word (wanted : List Char) (text : List Char) : Option (List Char) :=
  if text.take wanted.length = wanted then some (text.drop wanted.length) else none

/-- A value that holds no other values. -/
def plainValue (text : List Char) : Option (Value × List Char) :=
  match text with
  | '"' :: _ => (quotedText text).map fun (read, rest) => (.text (String.ofList read), rest)
  | '\x27' :: _ => (quotedText text).map fun (read, rest) => (.text (String.ofList read), rest)
  | 't' :: _ => (word ['t', 'r', 'u', 'e'] text).map fun rest => (.boolean true, rest)
  | 'f' :: _ => (word ['f', 'a', 'l', 's', 'e'] text).map fun rest => (.boolean false, rest)
  | _ => moment text <|> fraction text <|> integer text

/-- A value in which arrays and braces are at most `depth` deep. -/
def valueWithin : Nat → Reader Value
  | 0, text => plainValue text
  | depth + 1, text =>
    match text with
    | '[' :: rest => do
      let (read, rest) ← items (valueWithin depth) (rest.length + 1) rest
      return (.array read, rest)
    | '\x7b' :: rest => do
      let (read, rest) ← pairs (valueWithin depth) rest
      return (.table .braces (← Fields.assignAll [] read), rest)
    | _ => plainValue text

/-- A value. -/
def value : Reader Value := valueWithin depthLimit

/-- One line of a document. -/
inductive Line where
  | blank
  | pair (key : List String) (value : Value)
  | heading (heading : Heading)

/-- A line and its end; a value may reach over further lines. -/
def line (text : List Char) : Option (Line × List Char) := do
  let (read, rest) ←
    (match text with
    | '#' :: _ => some (.blank, text)
    | '\n' :: _ => some (.blank, text)
    | '\r' :: _ => some (.blank, text)
    | '[' :: '[' :: rest => do
      let (key, rest) ← key rest
      let (_, rest) ← expect ']' rest
      let (_, rest) ← expect ']' rest
      return (.heading (.repeated key), rest)
    | '[' :: rest => do
      let (key, rest) ← key rest
      let (_, rest) ← expect ']' rest
      return (.heading (.plain key), rest)
    | _ => do
      let ((key, value), rest) ← pair value text
      return (.pair key value, rest) : Option (Line × List Char))
  return (read, ← restOfLine rest)

/-- All lines of a text; `fuel` bounds their number. -/
def lines : Nat → List Char → Option (List Line)
  | 0, _ => none
  | fuel + 1, text =>
    match skipSpaces text with
    | [] => some []
    | text => do
      let (first, rest) ← line text
      return first :: (← lines fuel rest)

/-- The pairs before the first header, and each header with the pairs below
it. -/
def sections : List Line →
    List (List String × Value) × List (Heading × List (List String × Value))
  | [] => ([], [])
  | line :: rest =>
    let (pairs, sections) := sections rest
    match line with
    | .blank => (pairs, sections)
    | .pair key value => ((key, value) :: pairs, sections)
    | .heading heading => ([], (heading, pairs) :: sections)

/-- The table that a text describes, if it is well formed. -/
def parse (text : String) : Option Fields := do
  let text := text.toList
  let text := if text.head? = some '\ufeff' then text.drop 1 else text
  let (pairs, sections) := sections (← lines (text.length + 1) text)
  let root ← Fields.assignAll [] pairs
  sections.foldlM (fun root (heading, pairs) => root.addSection heading pairs) root

end Netplay.Toml
