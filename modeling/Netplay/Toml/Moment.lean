/-
Module: Netplay.Toml.Moment
Purpose: Dates, times of day and both together.
Main exports:
  Toml.moment
-/
import Netplay.Toml.Number

namespace Netplay.Toml

/-- A number of two digits within bounds. -/
def twoDigits (low high : Nat) : Reader Nat
  | a :: b :: rest =>
    let number := numberOf 10 [a, b]
    if isDigit a && isDigit b && low ≤ number && number ≤ high
    then some (number, rest) else none
  | _ => none

/-- A year of four digits. -/
def year : Reader Nat
  | a :: b :: c :: d :: rest =>
    if [a, b, c, d].all isDigit then some (numberOf 10 [a, b, c, d], rest) else none
  | _ => none

/-- Whether a year has a 29th of February. -/
def isLeap (year : Nat) : Bool :=
  year % 4 == 0 && (year % 100 != 0 || year % 400 == 0)

/-- The number of days of a month. -/
def daysIn (year month : Nat) : Nat :=
  if month = 2 then if isLeap year then 29 else 28
  else if month = 4 ∨ month = 6 ∨ month = 9 ∨ month = 11 then 30
  else 31

/-- A day of the calendar. -/
def date (text : List Char) : Option (List Char) := do
  let (year, rest) ← year text
  let (_, rest) ← expect '-' rest
  let (month, rest) ← twoDigits 1 12 rest
  let (_, rest) ← expect '-' rest
  let (_, rest) ← twoDigits 1 (daysIn year month) rest
  return rest

/-- A time of day with seconds, to which a leap second and parts of a second
may belong. -/
def timeOfDay (text : List Char) : Option (List Char) := do
  let (_, rest) ← twoDigits 0 23 text
  let (_, rest) ← expect ':' rest
  let (_, rest) ← twoDigits 0 59 rest
  let (_, rest) ← expect ':' rest
  let (_, rest) ← twoDigits 0 60 rest
  match rest with
  | '.' :: c :: rest => if isDigit c then some (rest.dropWhile isDigit) else none
  | _ => some rest

/-- The distance from universal time, if one is given. -/
def offset : List Char → Option (List Char)
  | 'Z' :: rest => some rest
  | 'z' :: rest => some rest
  | c :: rest =>
    if c == '+' || c == '-' then do
      let (_, rest) ← twoDigits 0 23 rest
      let (_, rest) ← expect ':' rest
      let (_, rest) ← twoDigits 0 59 rest
      return rest
    else some (c :: rest)
  | [] => some []

/-- A date, a time, or a date and a time with an offset or without. -/
def momentEnd (text : List Char) : Option (List Char) :=
  match date text with
  | none => timeOfDay text
  | some rest =>
    match rest with
    | c :: later =>
      if c == 'T' || c == 't' || c == ' ' then
        match timeOfDay later with
        | some rest => offset rest
        | none => some rest
      else some rest
    | [] => some []

/-- A date, a time or both. -/
def moment (text : List Char) : Option (Value × List Char) := do
  let rest ← momentEnd text
  return (.moment (String.ofList (text.take (text.length - rest.length))), rest)

end Netplay.Toml
