/-
Module: Netplay.Toml.Number
Purpose: Integers, in four bases, and numbers with a fraction or exponent.
Main exports:
  Toml.integer, Toml.fraction
-/
import Netplay.Toml.Quoted
import Netplay.Toml.Value

namespace Netplay.Toml

/-- A decimal digit. -/
def isDigit (c : Char) : Bool := '0' ≤ c && c ≤ '9'

/-- Whether a character is a digit of a base. -/
def isDigitOf (base : Nat) (c : Char) : Bool :=
  match hexValue? c with
  | some value => decide (value < base)
  | none => false

/-- The digits at the front of a text; single underscores between two digits
are left out. -/
def moreDigits (accept : Char → Bool) : List Char → List Char × List Char
  | '_' :: c :: rest =>
    if accept c then cons c (moreDigits accept rest) else ([], '_' :: c :: rest)
  | c :: rest =>
    if accept c then cons c (moreDigits accept rest) else ([], c :: rest)
  | [] => ([], [])

/-- One digit or more. -/
def digits (accept : Char → Bool) : Reader (List Char)
  | c :: rest => if accept c then some (cons c (moreDigits accept rest)) else none
  | [] => none

/-- A sign or none; whether it is a minus. -/
def sign : List Char → Bool × List Char
  | '-' :: rest => (true, rest)
  | '+' :: rest => (false, rest)
  | text => (false, text)

/-- The digits of a whole number: a zero alone, or digits that start with
another one. -/
def wholeDigits : Reader (List Char)
  | '0' :: rest => some (['0'], rest)
  | text => digits isDigit text

/-- The number that digits write in a base. -/
def numberOf (base : Nat) (digits : List Char) : Nat :=
  digits.foldl (fun number c => number * base + (hexValue? c).getD 0) 0

/-- An integer of 64 bits. -/
def inRange (value : Int) : Option Value :=
  if Int64.minValue.toInt ≤ value ∧ value ≤ Int64.maxValue.toInt then
    some (.integer value)
  else none

/-- The digits of a number without a sign, in the given base. -/
def based (base : Nat) (text : List Char) : Option (Value × List Char) := do
  let (read, rest) ← digits (isDigitOf base) text
  return (← inRange (numberOf base read), rest)

/-- An integer: decimal with or without a sign, or without one in base 16, 8
or 2. -/
def integer : Reader Value
  | '0' :: 'x' :: rest => based 16 rest
  | '0' :: 'o' :: rest => based 8 rest
  | '0' :: 'b' :: rest => based 2 rest
  | text => do
    let (negative, rest) := sign text
    let (read, rest) ← wholeDigits rest
    let size : Int := numberOf 10 read
    return (← inRange (if negative then -size else size), rest)

/-- The exponent at the front of a text. -/
def exponent : Reader Int
  | c :: rest =>
    if c == 'e' || c == 'E' then do
      let (negative, rest) := sign rest
      let (read, rest) ← digits isDigit rest
      let size : Int := numberOf 10 read
      return (if negative then -size else size, rest)
    else none
  | [] => none

/-- The decimal places at the front of a text, with the point. -/
def places : Reader (List Char)
  | '.' :: rest => digits isDigit rest
  | _ => none

/-- Whether `mantissa · 10^exponent` is at least the half way point between
the largest number of double precision and the next power of two, so that it
rounds to infinity.  Exponents far from that point decide by themselves. -/
def overflows (mantissa : List Char) (exponent : Int) : Bool :=
  let number := numberOf 10 mantissa
  let scale := exponent + (mantissa.dropWhile (· == '0')).length
  let limit := Nat.pow 2 1024 - Nat.pow 2 970
  if number = 0 || scale < 300 then false
  else if 320 < scale then true
  else if 0 ≤ exponent then limit ≤ number * Nat.pow 10 exponent.toNat
  else limit * Nat.pow 10 (-exponent).toNat ≤ number

/-- A number that is not finite, by name. -/
def named (name : List Char) (text : List Char) : Option (List Char) :=
  if text.take name.length = name then some (text.drop name.length) else none

/-- A number with decimal places, an exponent or both, or one that is not
finite by its name.  A positive number too large for double precision is
refused. -/
def fraction (text : List Char) : Option (Value × List Char) := do
  let (negative, unsigned) := sign text
  let rest ←
    (do let (whole, rest) ← wholeDigits unsigned
        let (decimals, power, rest) ←
          match places rest with
          | some (decimals, rest) =>
            match exponent rest with
            | some (power, rest) => some (decimals, power, rest)
            | none => some (decimals, 0, rest)
          | none => do
            let (power, rest) ← exponent rest
            some ([], power, rest)
        if !negative && overflows (whole ++ decimals) (power - decimals.length)
        then none else some rest)
    <|> named ['i', 'n', 'f'] unsigned
    <|> named ['n', 'a', 'n'] unsigned
  return (.fraction (String.ofList (text.take (text.length - rest.length))), rest)

end Netplay.Toml
