/-
Module: Netplay.Proofs.GreetingTexts
Purpose: Which byte strings are read as which greeting: each greeting has one text, but
  for the marks that may stand before the port of a grant.
Main exports:
  Greeting.numeral, Greeting.portText, Greeting.port?_eq_some_iff, Greeting.Shadowed,
  Greeting.grantBytes, Greeting.parse_roundTrip
-/
import Mathlib.Data.List.Induction
import Netplay.Greeting
import Netplay.Proofs.Spelling

namespace Netplay.Greeting

/-! ## Numbers -/

/-- A number in decimal digits, after some zeros. -/
def numeral (zeros value : Nat) : List Char :=
  List.replicate zeros '0' ++ Nat.toDigits 10 value

theorem isDigit_of_mem_numeral {zeros value : Nat} {c : Char}
    (member : c ∈ numeral zeros value) : c.isDigit = true := by
  rcases List.mem_append.mp member with zero | digit
  · rw [List.eq_of_mem_replicate zero]
    decide
  · exact Nat.isDigit_of_mem_toDigits (by decide) (by decide) digit

/-- A digit is written by its value. -/
theorem digitChar_of_isDigit {digit : Char} (isDigit : digit.isDigit = true) :
    digit.toNat - 48 < 10 ∧ (digit.toNat - 48).digitChar = digit := by
  obtain ⟨low, high⟩ := Char.isDigit_iff_toNat.mp isDigit
  have small : digit.toNat - 48 < 10 := by
    simp at high
    omega
  refine ⟨small, Char.toNat_inj.mp ?_⟩
  rw [Nat.toNat_digitChar_of_lt_ten small]
  simp at low ⊢
  omega

/-- One more digit makes ten times the number, and the digit. -/
theorem digitsValue?_append_singleton (digits : List Char) (digit : Char) :
    digitsValue? (digits ++ [digit]) = (digitsValue? digits).bind fun value =>
      if digit.isDigit then some (10 * value + (digit.toNat - 48)) else none := by
  simp [digitsValue?]

/-- Digits have the value that they have in the decimal system. -/
theorem digitsValue?_of_isDigit {digits : List Char}
    (all : ∀ digit ∈ digits, digit.isDigit = true) :
    digitsValue? digits = some (Nat.ofDigitChars 10 digits 0) := by
  induction digits using List.reverseRecOn with
  | nil => rfl
  | append_singleton digits digit inductionHypothesis =>
      have last := all digit (by simp)
      have others := inductionHypothesis fun other member => all other (by simp [member])
      rw [digitsValue?_append_singleton, others, Option.bind_some, if_pos last,
        Nat.ofDigitChars_append, Nat.ofDigitChars_cons]
      rfl

theorem digitsValue?_numeral (zeros value : Nat) :
    digitsValue? (numeral zeros value) = some value := by
  rw [digitsValue?_of_isDigit fun _ => isDigit_of_mem_numeral, numeral,
    Nat.ofDigitChars_append, Nat.ofDigitChars_replicate_zero, Nat.mul_zero,
    Nat.ofDigitChars_ten_toDigits]

/-- One more digit after a number without zeros before it. -/
theorem numeral_append_singleton (zeros value digit : Nat) (small : digit < 10) :
    ∃ more, numeral zeros value ++ [digit.digitChar] = numeral more (10 * value + digit) := by
  cases value with
  | zero =>
      -- The digit of zero becomes one of the zeros in front.
      refine ⟨zeros + 1, ?_⟩
      rw [numeral, numeral, Nat.mul_zero, Nat.zero_add, Nat.toDigits_of_lt_base small,
        Nat.toDigits_zero, List.replicate_succ']
  | succ value =>
      refine ⟨zeros, ?_⟩
      rw [numeral, numeral, ← Nat.toDigits_append_toDigits (by decide) (Nat.succ_pos value) small,
        Nat.toDigits_of_lt_base small, List.append_assoc]

/-- A row of characters has a value exactly if it is a number in digits. -/
theorem digitsValue?_eq_some_iff {digits : List Char} {value : Nat} :
    digits ≠ [] ∧ digitsValue? digits = some value ↔ ∃ zeros, digits = numeral zeros value := by
  constructor
  · induction digits using List.reverseRecOn generalizing value with
    | nil => exact fun empty => absurd rfl empty.1
    | append_singleton digits digit inductionHypothesis =>
        rintro ⟨-, found⟩
        rw [digitsValue?_append_singleton, Option.bind_eq_some_iff] at found
        obtain ⟨before, others, found⟩ := found
        split at found
        · rename_i isDigit
          obtain rfl := Option.some.inj found
          obtain ⟨small, same⟩ := digitChar_of_isDigit isDigit
          by_cases first : digits = []
          · subst first
            obtain rfl := Option.some.inj others
            refine ⟨0, ?_⟩
            simp [numeral, Nat.toDigits_of_lt_base small, same]
          · obtain ⟨zeros, rfl⟩ := inductionHypothesis ⟨first, others⟩
            have grown := numeral_append_singleton zeros before _ small
            rwa [same] at grown
        · cases found
  · rintro ⟨zeros, rfl⟩
    refine ⟨?_, digitsValue?_numeral zeros value⟩
    simp [numeral]

/-- A port in decimal digits, as it may be written: after a plus sign, and after some
zeros. -/
def portText (plus : Bool) (zeros : Nat) (port : UInt16) : List Char :=
  (if plus then ['+'] else []) ++ numeral zeros port.toNat

/-- A row of characters without the plus sign in front, if there is one. -/
def unsigned : List Char → List Char
  | '+' :: digits => digits
  | digits => digits

theorem unsigned_numeral (zeros value : Nat) :
    unsigned (numeral zeros value) = numeral zeros value := by
  unfold unsigned
  split
  · rename_i digits signed
    have sign : '+' ∈ numeral zeros value := signed ▸ List.mem_cons_self
    exact absurd (isDigit_of_mem_numeral sign) (by decide)
  · rfl

/-- The port with a number that has been read, if there is one. -/
def ofValue? : Option Nat → Option UInt16
  | some value => if value < 65536 then some (UInt16.ofNat value) else none
  | none => none

theorem ofValue?_eq_some_iff {value? : Option Nat} {port : UInt16} :
    ofValue? value? = some port ↔ value? = some port.toNat := by
  have bound := port.toNat_lt
  cases value? with
  | none => simp [ofValue?]
  | some value =>
      rw [ofValue?, Option.some.injEq]
      constructor
      · intro found
        split at found
        · rename_i small
          rw [← Option.some.inj found, UInt16.toNat_ofNat']
          exact (Nat.mod_eq_of_lt small).symm
        · cases found
      · rintro rfl
        rw [if_pos bound, UInt16.ofNat_toNat]

/-- A port is the number after the plus sign. -/
theorem port?_eq_some_iff_value {chars : List Char} {port : UInt16} :
    port? chars = some port ↔
      unsigned chars ≠ [] ∧ digitsValue? (unsigned chars) = some port.toNat := by
  change (if unsigned chars = [] then none else ofValue? (digitsValue? (unsigned chars))) =
    some port ↔ _
  split
  · simp_all
  · rename_i nonempty
    rw [ofValue?_eq_some_iff]
    exact (and_iff_right nonempty).symm

/-- Just the ports that may be written so are read. -/
theorem port?_eq_some_iff {chars : List Char} {port : UInt16} :
    port? chars = some port ↔ ∃ plus zeros, chars = portText plus zeros port := by
  rw [port?_eq_some_iff_value, digitsValue?_eq_some_iff]
  constructor
  · rintro ⟨zeros, digits⟩
    unfold unsigned at digits
    split at digits
    · exact ⟨true, zeros, congrArg ('+' :: ·) digits⟩
    · exact ⟨false, zeros, digits⟩
  · rintro ⟨plus, zeros, rfl⟩
    refine ⟨zeros, ?_⟩
    cases plus with
    | true => rfl
    | false => exact unsigned_numeral zeros port.toNat

/-! ## Texts -/

theorem after?_eq_some_iff {word chars rest : List Char} :
    after? word chars = some rest ↔ chars = word ++ rest := by
  unfold after?
  constructor
  · intro found
    split at found
    · rename_i begins
      rw [← Option.some.inj found]
      calc
        chars = chars.take word.length ++ chars.drop word.length :=
          (List.take_append_drop ..).symm
        _ = word ++ chars.drop word.length := by rw [begins]
    · cases found
  · rintro rfl
    simp

/-- A request for a session whose protocol begins with the rest of the longer word. -/
def Shadowed : Greeting → Prop
  | hello protocol => ['D', '0', '0', 'D'] <+: protocol.toList
  | _ => False

/-- How a greeting is written.  A grant may have marks before its port. -/
inductive Spelled : Greeting → List Char → Prop where
  | hello {protocol : String} (plain : ¬ (hello protocol).Shadowed) :
      Spelled (hello protocol) (helloWord ++ protocol.toList)
  | granted (plus : Bool) (zeros : Nat) (port : UInt16) :
      Spelled (granted port) (grantedWord ++ portText plus zeros port)
  | tooMany : Spelled tooMany ['T', 'O', 'O']
  | ping : Spelled ping ['P', 'I', 'N', 'G']
  | pong : Spelled pong ['P', 'O', 'N', 'G']

/-- The longer word is found after the shorter one exactly if the protocol goes on so. -/
theorem after?_grantedWord {protocol : String} {rest : List Char} :
    after? grantedWord (helloWord ++ protocol.toList) = some rest ↔
      ['D', '0', '0', 'D'] ++ rest = protocol.toList := by
  have longer : grantedWord ++ rest = helloWord ++ (['D', '0', '0', 'D'] ++ rest) := rfl
  rw [after?_eq_some_iff, longer, List.append_cancel_left_eq, eq_comm]

/-- What is written so is read. -/
theorem Spelled.ofText? {greeting : Greeting} {chars : List Char}
    (spelled : greeting.Spelled chars) : Greeting.ofText? chars = some (.ok greeting) := by
  cases spelled with
  | hello plain =>
      rename_i protocol
      have long : after? grantedWord (helloWord ++ protocol.toList) = none :=
        Option.eq_none_iff_forall_ne_some.mpr fun rest found =>
          plain ⟨rest, after?_grantedWord.mp found⟩
      have short := after?_eq_some_iff.mpr (rfl : helloWord ++ protocol.toList = _)
      simp only [Greeting.ofText?, long, short, String.ofList_toList]
  | granted plus zeros port =>
      have long := after?_eq_some_iff.mpr
        (rfl : grantedWord ++ portText plus zeros port = _)
      simp only [Greeting.ofText?, long, port?_eq_some_iff.mpr ⟨plus, zeros, rfl⟩]
  | tooMany => rfl
  | ping => rfl
  | pong => rfl

/-- What is read is written so. -/
theorem spelled_of_ofText? {greeting : Greeting} {chars : List Char}
    (read : ofText? chars = some (.ok greeting)) : greeting.Spelled chars := by
  unfold ofText? at read
  split at read
  · rename_i rest long
    obtain rfl := after?_eq_some_iff.mp long
    split at read
    · rename_i port found
      obtain rfl := Except.ok.inj (Option.some.inj read)
      obtain ⟨plus, zeros, rfl⟩ := port?_eq_some_iff.mp found
      exact .granted plus zeros port
    · cases read
  · rename_i notLong
    split at read
    · rename_i protocol short
      obtain rfl := Except.ok.inj (Option.some.inj read)
      rw [after?_eq_some_iff, ← String.toList_ofList (l := protocol)] at short
      subst short
      refine .hello ?_
      rintro ⟨rest, begins⟩
      rw [after?_grantedWord.mpr begins] at notLong
      cases notLong
    · -- None of the words that others follow: one of the three that stand alone.
      split at read
      · rename_i same
        rw [same, ← Except.ok.inj (Option.some.inj read)]
        exact .tooMany
      · split at read
        · rename_i same
          rw [same, ← Except.ok.inj (Option.some.inj read)]
          exact .ping
        · split at read
          · rename_i same
            rw [same, ← Except.ok.inj (Option.some.inj read)]
            exact .pong
          · cases read

/-- A datagram is read if it is a text that is read, and a NUL after it. -/
theorem parse_eq_ok_iff {datagram : Bytes} {greeting : Greeting} :
    parse datagram = .ok greeting ↔
      ∃ text : String, datagram = Utf8.encode text ++ [0] ∧ greeting.Spelled text.toList := by
  constructor
  · intro read
    unfold parse at read
    simp only at read
    split at read
    · rename_i ends
      obtain ⟨spelling, rfl⟩ := List.getLast?_eq_some_iff.mp ends
      rw [List.dropLast_concat] at read
      split at read
      · rename_i text decoded
        refine ⟨text, by rw [Utf8.decode?_eq_some_iff.mp decoded], spelled_of_ofText? ?_⟩
        cases found : ofText? text.toList with
        | none =>
            rw [found] at read
            cases read
        | some result =>
            rw [found] at read
            exact congrArg some read
      · cases read
    · cases read
  · rintro ⟨text, rfl, spelled⟩
    simp only [parse, List.getLast?_concat, List.dropLast_concat, if_true,
      Utf8.decode?_eq_some_iff.mpr rfl, spelled.ofText?, Option.getD_some]

/-! ## Round trips -/

/-- A grant as it may be written on the wire. -/
def grantBytes (plus : Bool) (zeros : Nat) (port : UInt16) : Bytes :=
  Utf8.encode (String.ofList (grantedWord ++ portText plus zeros port)) ++ [0]

/-- A greeting is written as its text, and a grant also with marks before its port. -/
theorem spelled_iff {greeting : Greeting} {text : String} :
    greeting.Spelled text.toList ↔ ¬ greeting.Shadowed ∧
      (text = greeting.text ∨ ∃ plus zeros port, greeting = .granted port ∧
        text = String.ofList (grantedWord ++ portText plus zeros port)) := by
  constructor
  · intro spelled
    generalize same : text.toList = chars at spelled
    rw [← String.ofList_toList (s := text), same]
    cases spelled with
    | hello plain => exact ⟨plain, .inl rfl⟩
    | granted plus zeros port => exact ⟨id, .inr ⟨plus, zeros, port, rfl, rfl⟩⟩
    | tooMany => exact ⟨id, .inl rfl⟩
    | ping => exact ⟨id, .inl rfl⟩
    | pong => exact ⟨id, .inl rfl⟩
  · rintro ⟨plain, rfl | ⟨plus, zeros, port, rfl, rfl⟩⟩
    · cases greeting with
      | hello protocol =>
          rw [text, String.toList_ofList]
          exact .hello plain
      | granted port =>
          rw [text, String.toList_ofList]
          exact .granted false 0 port
      | tooMany => exact .tooMany
      | ping => exact .ping
      | pong => exact .pong
    · rw [String.toList_ofList]
      exact .granted plus zeros port

/-- A greeting reads back unless it is taken for a grant. -/
theorem parse_encode_iff {greeting : Greeting} :
    parse greeting.encode = .ok greeting ↔ ¬ greeting.Shadowed := by
  rw [parse_eq_ok_iff]
  constructor
  · rintro ⟨text, -, spelled⟩
    exact (spelled_iff.mp spelled).1
  · intro plain
    exact ⟨greeting.text, rfl, spelled_iff.mpr ⟨plain, .inl rfl⟩⟩

/-- A greeting reads back from its own bytes exactly if it is no request that is taken for
a grant.  A datagram is read as a greeting exactly if the greeting reads back and the
datagram is its bytes, or it is a grant and the datagram has marks before the port. -/
theorem parse_roundTrip (greeting : Greeting) (datagram : Bytes) :
    (parse greeting.encode = .ok greeting ↔ ¬ greeting.Shadowed) ∧
      (parse datagram = .ok greeting ↔
        ¬ greeting.Shadowed ∧ parse greeting.encode = .ok greeting ∧
          (datagram = greeting.encode ∨ ∃ plus zeros port, greeting = .granted port ∧
            datagram = grantBytes plus zeros port)) := by
  refine ⟨parse_encode_iff, ?_⟩
  rw [parse_encode_iff, parse_eq_ok_iff]
  constructor
  · rintro ⟨text, rfl, spelled⟩
    obtain ⟨plain, rfl | ⟨plus, zeros, port, rfl, rfl⟩⟩ := spelled_iff.mp spelled
    · exact ⟨plain, plain, .inl rfl⟩
    · exact ⟨plain, plain, .inr ⟨plus, zeros, port, rfl, rfl⟩⟩
  · rintro ⟨plain, -, rfl | ⟨plus, zeros, port, rfl, rfl⟩⟩
    · exact ⟨_, rfl, spelled_iff.mpr ⟨plain, .inl rfl⟩⟩
    · exact ⟨_, rfl, spelled_iff.mpr ⟨plain, .inr ⟨plus, zeros, port, rfl, rfl⟩⟩⟩

/-- A request for a session that speaks D00D80 is taken for a grant of port 80. -/
example : parse (hello "D00D80").encode = .ok (granted 80) := by
  decide +kernel

end Netplay.Greeting
