/-
Module: Netplay.Toml.Quoted
Purpose: Quoted texts: basic ones with escapes and literal ones without, on
  one line or on several.
Main exports:
  Toml.basicText, Toml.literalText, Toml.quotedText
-/
import Netplay.Toml.Blank

namespace Netplay.Toml

/-- The value of a hexadecimal digit in either case. -/
def hexValue? (c : Char) : Option Nat :=
  if '0' ≤ c && c ≤ '9' then some (c.toNat - 48)
  else if 'a' ≤ c && c ≤ 'f' then some (c.toNat - 87)
  else if 'A' ≤ c && c ≤ 'F' then some (c.toNat - 55)
  else none

/-- The number that hexadecimal digits write. -/
def hexNumber? (digits : List Char) : Option Nat :=
  digits.foldl
    (fun number c => do return (← number) * 16 + (← hexValue? c))
    (some 0)

/-- The character of a code point given in hexadecimal digits; surrogates
and numbers beyond the last code point name none. -/
def scalar? (digits : List Char) : Option Char := do
  let code ← hexNumber? digits
  if h : code.isValidChar then some (Char.ofNatAux code h) else none

/-- The character that a one-letter escape stands for. -/
def escaped? : Char → Option Char
  | 'b' => some '\x08'
  | 't' => some '\t'
  | 'n' => some '\n'
  | 'f' => some '\x0c'
  | 'r' => some '\r'
  | '"' => some '"'
  | '\\' => some '\\'
  | _ => none

/-- Puts a character in front of what was read. -/
def cons (c : Char) (read : List Char × List Char) : List Char × List Char :=
  (c :: read.1, read.2)

/-- What follows three closing quotes: up to two more quotes still belong to
the text. -/
def closing (quote : Char) (rest : List Char) : List Char × List Char :=
  ((rest.take 2).takeWhile (· == quote),
    (rest.take 2).dropWhile (· == quote) ++ rest.drop 2)

/-- The rest of a basic text on one line, up to its closing quote. -/
def basicLine : Reader (List Char)
  | '"' :: rest => some ([], rest)
  | '\\' :: 'u' :: a :: b :: c :: d :: rest => do
    let char ← scalar? [a, b, c, d]
    return cons char (← basicLine rest)
  | '\\' :: 'U' :: a :: b :: c :: d :: e :: f :: g :: h :: rest => do
    let char ← scalar? [a, b, c, d, e, f, g, h]
    return cons char (← basicLine rest)
  | '\\' :: letter :: rest => do
    let char ← escaped? letter
    return cons char (← basicLine rest)
  | c :: rest =>
    if isPrintable c && c != '\\' then (basicLine rest).map (cons c) else none
  | [] => none

/-- Whether nothing but spaces is left on the line. -/
def endsLine (text : List Char) : Bool := (lineFeed (skipSpaces text)).isSome

/-- The rest of a basic text on several lines.  A backslash at the end of a
line takes away all spaces and line feeds up to the next other character;
`trimming` says that this is going on. -/
def basicLines : Bool → Reader (List Char)
  | true, ' ' :: rest => basicLines true rest
  | true, '\t' :: rest => basicLines true rest
  | true, '\n' :: rest => basicLines true rest
  | true, '\r' :: '\n' :: rest => basicLines true rest
  | _, '"' :: '"' :: '"' :: rest => some (closing '"' rest)
  | _, '\r' :: '\n' :: rest => (basicLines false rest).map (cons '\n')
  | _, '\n' :: rest => (basicLines false rest).map (cons '\n')
  | _, '\\' :: 'u' :: a :: b :: c :: d :: rest => do
    let char ← scalar? [a, b, c, d]
    return cons char (← basicLines false rest)
  | _, '\\' :: 'U' :: a :: b :: c :: d :: e :: f :: g :: h :: rest => do
    let char ← scalar? [a, b, c, d, e, f, g, h]
    return cons char (← basicLines false rest)
  | _, '\\' :: letter :: rest =>
    if endsLine (letter :: rest) then basicLines true (letter :: rest)
    else do
      let char ← escaped? letter
      return cons char (← basicLines false rest)
  | _, c :: rest =>
    if isPrintable c && c != '\\' then (basicLines false rest).map (cons c)
    else none
  | _, [] => none

/-- The rest of a literal text on one line. -/
def literalLine : Reader (List Char)
  | '\x27' :: rest => some ([], rest)
  | c :: rest => if isPrintable c then (literalLine rest).map (cons c) else none
  | [] => none

/-- The rest of a literal text on several lines. -/
def literalLines : Reader (List Char)
  | '\x27' :: '\x27' :: '\x27' :: rest => some (closing '\x27' rest)
  | '\r' :: '\n' :: rest => (literalLines rest).map (cons '\n')
  | '\n' :: rest => (literalLines rest).map (cons '\n')
  | c :: rest => if isPrintable c then (literalLines rest).map (cons c) else none
  | [] => none

/-- The text without a line feed at its front. -/
def dropLineFeed (text : List Char) : List Char := (lineFeed text).getD text

/-- A basic text on one line. -/
def basicText : Reader (List Char)
  | '"' :: rest => basicLine rest
  | _ => none

/-- A literal text on one line. -/
def literalText : Reader (List Char)
  | '\x27' :: rest => literalLine rest
  | _ => none

/-- A quoted text of any of the four kinds.  Three quotes open one on several
lines, and a line feed right after them is not part of it. -/
def quotedText : Reader (List Char)
  | '"' :: '"' :: '"' :: rest => basicLines false (dropLineFeed rest)
  | '\x27' :: '\x27' :: '\x27' :: rest => literalLines (dropLineFeed rest)
  | '"' :: rest => basicLine rest
  | '\x27' :: rest => literalLine rest
  | _ => none

end Netplay.Toml
