/-
Module: Netplay.Greeting
Purpose: The short texts exchanged on the well-known port before a client
  moves to the port of its session.
Main exports:
  Greeting, Greeting.text, Greeting.encode, Greeting.parse
-/
import Netplay.Wire.Field

namespace Netplay

/-- A connect text. -/
inductive Greeting where
  /-- A client asks for a session that speaks `protocol`. -/
  | hello (protocol : String)
  /-- The relay grants a session on `port`. -/
  | granted (port : UInt16)
  /-- The relay is full. -/
  | tooMany
  | ping
  | pong
deriving Repr, Inhabited, DecidableEq

namespace Greeting

/-- The word of a request for a session; the protocol follows it. -/
def helloWord : List Char := ['H', 'E', 'L', 'L', 'O']

/-- The word of a grant; the port follows it. -/
def grantedWord : List Char := ['H', 'E', 'L', 'L', 'O', 'D', '0', '0', 'D']

/-- A greeting as text. -/
def text : Greeting → String
  | hello protocol => String.ofList (helloWord ++ protocol.toList)
  | granted port =>
      String.ofList (grantedWord ++ Nat.toDigits 10 port.toNat)
  | tooMany => "TOO"
  | ping => "PING"
  | pong => "PONG"

/-- A greeting on the wire: its text and a NUL. -/
def encode (greeting : Greeting) : Bytes :=
  Utf8.encode greeting.text ++ [0]

/-- The value of a row of decimal digits, none if it has another character. -/
def digitsValue? (digits : List Char) : Option Nat :=
  digits.foldl
    (fun value digit =>
      value.bind fun value =>
        if digit.isDigit then some (10 * value + (digit.toNat - 48)) else none)
    (some 0)

/-- A port number: decimal digits, perhaps after one plus sign, with a value
below 65536. -/
def port? (chars : List Char) : Option UInt16 :=
  let digits := match chars with
    | '+' :: digits => digits
    | digits => digits
  if digits = [] then none
  else
    match digitsValue? digits with
    | some value => if value < 65536 then some (UInt16.ofNat value) else none
    | none => none

/-- The bytes of an unknown text as they are shown: at most 64, with a dot for
each byte that is no printable ASCII character or is a blank. -/
def shown (datagram : Bytes) : String :=
  String.ofList
    ((datagram.take 64).map fun b =>
      if 0x21 ≤ b && b ≤ 0x7E then Char.ofNat b.toNat else '.')

/-- `chars` without the leading `word`, if it begins with it. -/
def after? (word chars : List Char) : Option (List Char) :=
  if chars.take word.length = word then some (chars.drop word.length) else none

/-- The greeting with a given text. -/
def ofText? (chars : List Char) : Option (Except FormatError Greeting) :=
  match after? grantedWord chars with
  | some port =>
      match port? port with
      | some port => some (.ok (granted port))
      | none => some (.error (.invalidField "port" (-1)))
  | none =>
      match after? helloWord chars with
      | some protocol => some (.ok (hello (String.ofList protocol)))
      | none =>
          if chars = ['T', 'O', 'O'] then some (.ok tooMany)
          else if chars = ['P', 'I', 'N', 'G'] then some (.ok ping)
          else if chars = ['P', 'O', 'N', 'G'] then some (.ok pong)
          else none

/-- Read a greeting: well-formed UTF-8 whose last byte is NUL. -/
def parse (datagram : Bytes) : Except FormatError Greeting :=
  let unknown := Except.error (.unknownGreeting (shown datagram))
  if datagram.getLast? = some 0 then
    match Utf8.decode? datagram.dropLast with
    | some text => (ofText? text.toList).getD unknown
    | none => unknown
  else unknown

end Greeting

end Netplay
