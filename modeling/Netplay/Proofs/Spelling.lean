/-
Module: Netplay.Proofs.Spelling
Purpose: A text has exactly one spelling in UTF-8, reading it gives the text back, and
  its zero bytes are its NUL characters.
Main exports:
  Utf8.Spells, Utf8.next_encodeChar, Utf8.encodeChar_of_next,
  Utf8.decode?_eq_some_iff, Utf8.decodeLossy_encode, Utf8.upToNul,
  Utf8.takeWhile_encode
-/
import Mathlib.Data.List.TakeWhile
import Netplay.Text.Utf8

namespace Netplay.Utf8

/-!
`next` reads a character by looking at the bytes, and a character is written by looking
at its number.  Both are related to one table, `Spells`, which has a row for each length
of a character; the two directions of every statement below are those of the table.
-/

/-! ## The table -/

theorem isContinuation_iff {b : UInt8} :
    isContinuation b = true ↔ 128 ≤ b.toNat ∧ b.toNat ≤ 191 := by
  simp [isContinuation, UInt8.le_iff_toNat_le]

theorem isSecondOfThree_iff {lead b : UInt8} : isSecondOfThree lead b = true ↔
    128 ≤ b.toNat ∧ b.toNat ≤ 191 ∧ (lead.toNat = 224 → 160 ≤ b.toNat) ∧
      (lead.toNat = 237 → b.toNat ≤ 159) := by
  simp only [isSecondOfThree, isContinuation, ← UInt8.toNat_inj, UInt8.le_iff_toNat_le]
  split
  · simp_all
    omega
  · split
    · simp_all
      omega
    · simp_all

theorem isSecondOfFour_iff {lead b : UInt8} : isSecondOfFour lead b = true ↔
    128 ≤ b.toNat ∧ b.toNat ≤ 191 ∧ (lead.toNat = 240 → 144 ≤ b.toNat) ∧
      (lead.toNat = 244 → b.toNat ≤ 143) := by
  simp only [isSecondOfFour, isContinuation, ← UInt8.toNat_inj, UInt8.le_iff_toNat_le]
  split
  · simp_all
    omega
  · split
    · simp_all
      omega
    · simp_all

/-- The character with a given number is spelled by a lead byte and the bytes after it. -/
inductive Spells (number : Nat) (lead : UInt8) : Bytes → Prop where
  | one (low : lead.toNat < 128) (value : number = lead.toNat) : Spells number lead []
  | two {b1 : UInt8} (low : 194 ≤ lead.toNat) (high : lead.toNat ≤ 223)
      (first : isContinuation b1 = true)
      (value : number = lead.toNat % 32 * 64 + payload b1) : Spells number lead [b1]
  | three {b1 b2 : UInt8} (low : 224 ≤ lead.toNat) (high : lead.toNat ≤ 239)
      (first : isSecondOfThree lead b1 = true) (second : isContinuation b2 = true)
      (value : number = lead.toNat % 16 * 4096 + payload b1 * 64 + payload b2) :
      Spells number lead [b1, b2]
  | four {b1 b2 b3 : UInt8} (low : 240 ≤ lead.toNat) (high : lead.toNat ≤ 244)
      (first : isSecondOfFour lead b1 = true) (second : isContinuation b2 = true)
      (third : isContinuation b3 = true)
      (value : number =
        lead.toNat % 8 * 262144 + payload b1 * 4096 + payload b2 * 64 + payload b3) :
      Spells number lead [b1, b2, b3]

variable {c : Char} {lead : UInt8} {tail rest : Bytes} {number length : Nat}

namespace Spells

/-- What the table spells is read. -/
theorem next (spells : Spells number lead tail) (rest : Bytes) :
    Utf8.next lead (tail ++ rest) = (.char (Char.ofNat number), tail.length) := by
  cases spells with
  | one low value => simp [Utf8.next, UInt8.lt_iff_toNat_lt, low, value]
  | two low high first value =>
      have beyondOne : ¬ lead.toNat < 128 := by omega
      simp [Utf8.next, UInt8.le_iff_toNat_le, UInt8.lt_iff_toNat_lt, beyondOne, low, high,
        first, value]
  | three low high first second value =>
      have beyondOne : ¬ lead.toNat < 128 := by omega
      have beyondTwo : ¬ lead.toNat ≤ 223 := by omega
      simp [Utf8.next, UInt8.le_iff_toNat_le, UInt8.lt_iff_toNat_lt, beyondOne, beyondTwo, low,
        high, first, second, value]
  | four low high first second third value =>
      have beyondOne : ¬ lead.toNat < 128 := by omega
      have beyondTwo : ¬ lead.toNat ≤ 223 := by omega
      have beyondThree : ¬ lead.toNat ≤ 239 := by omega
      simp [Utf8.next, UInt8.le_iff_toNat_le, UInt8.lt_iff_toNat_lt, beyondOne, beyondTwo,
        beyondThree, low, high, first, second, third, value]

/-- What is read as a character stands in the table. -/
theorem of_next (read : Utf8.next lead rest = (.char c, length)) :
    ∃ number tail more, Spells number lead tail ∧ rest = tail ++ more ∧
      tail.length = length ∧ c = Char.ofNat number := by
  revert read
  fun_cases Utf8.next lead rest
  all_goals
    intro read
    simp only [Prod.mk.injEq, Piece.char.injEq, reduceCtorEq, false_and] at read
  case case1 low =>
      obtain ⟨rfl, rfl⟩ := read
      exact ⟨_, [], rest, .one (UInt8.lt_iff_toNat_lt.mp low) rfl, rfl, rfl, rfl⟩
  case case2 range b1 more first =>
      obtain ⟨rfl, rfl⟩ := read
      simp only [Bool.and_eq_true, decide_eq_true_eq, UInt8.le_iff_toNat_le] at range
      exact ⟨_, [b1], more, .two range.1 range.2 first rfl, rfl, rfl, rfl⟩
  case case7 range b1 b2 more first second =>
      obtain ⟨rfl, rfl⟩ := read
      simp only [Bool.and_eq_true, decide_eq_true_eq, UInt8.le_iff_toNat_le] at range
      simp only [Bool.not_eq_true, Bool.not_eq_false'] at first second
      exact ⟨_, [b1, b2], more, .three range.1 range.2 first second rfl, rfl, rfl, rfl⟩
  case case13 range b1 b2 b3 more first second third =>
      obtain ⟨rfl, rfl⟩ := read
      simp only [Bool.and_eq_true, decide_eq_true_eq, UInt8.le_iff_toNat_le] at range
      simp only [Bool.not_eq_true, Bool.not_eq_false'] at first second third
      exact ⟨_, [b1, b2, b3], more, .four range.1 range.2 first second third rfl, rfl, rfl, rfl⟩

/-- The table has no surrogates and nothing above U+10FFFF. -/
theorem valid (spells : Spells number lead tail) : number.isValidChar := by
  cases spells with
  | one low value => exact .inl (by omega)
  | two low high first value =>
      rw [isContinuation_iff] at first
      unfold payload at value
      unfold Nat.isValidChar
      omega
  | three low high first second value =>
      rw [isSecondOfThree_iff] at first
      rw [isContinuation_iff] at second
      unfold payload at value
      unfold Nat.isValidChar
      omega
  | four low high first second third value =>
      rw [isSecondOfFour_iff] at first
      rw [isContinuation_iff] at second third
      unfold payload at value
      unfold Nat.isValidChar
      omega

/-- What the table spells is written so. -/
theorem written (spells : Spells number lead tail) :
    String.utf8EncodeChar (Char.ofNat number) = lead :: tail := by
  have same : (Char.ofNat number).val.toNat = number := by
    rw [Char.ofNat, dif_pos spells.valid]
    rfl
  simp only [String.utf8EncodeChar, same]
  cases spells with
  | one low value =>
      rw [if_pos (by omega), value]
      simp
  | two low high first value =>
      rw [isContinuation_iff] at first
      unfold payload at value
      rw [if_neg (by omega), if_pos (by omega)]
      simp [← UInt8.toNat_inj]
      omega
  | three low high first second value =>
      rw [isSecondOfThree_iff] at first
      rw [isContinuation_iff] at second
      unfold payload at value
      rw [if_neg (by omega), if_neg (by omega), if_pos (by omega)]
      simp [← UInt8.toNat_inj]
      omega
  | four low high first second third value =>
      rw [isSecondOfFour_iff] at first
      rw [isContinuation_iff] at second third
      unfold payload at value
      rw [if_neg (by omega), if_neg (by omega), if_neg (by omega)]
      simp [← UInt8.toNat_inj]
      omega

/-- Every character stands in the table. -/
theorem of_written (written : String.utf8EncodeChar c = lead :: tail) :
    Spells c.toNat lead tail := by
  have valid := c.valid
  simp only [UInt32.isValidChar, Nat.isValidChar, Char.toNat_val] at valid
  simp only [String.utf8EncodeChar, Char.toNat_val] at written
  generalize c.toNat = number at valid written
  split at written
  · obtain ⟨rfl, rfl⟩ := List.cons.inj written
    refine .one ?_ ?_
    · simp
      omega
    · simp
      omega
  · split at written
    · obtain ⟨rfl, rfl⟩ := List.cons.inj written
      refine .two ?_ ?_ ?_ ?_
      all_goals
        simp [isContinuation_iff, payload]
        omega
    · split at written
      · obtain ⟨rfl, rfl⟩ := List.cons.inj written
        refine .three ?_ ?_ ?_ ?_ ?_
        all_goals
          simp [isContinuation_iff, isSecondOfThree_iff, payload]
          omega
      · obtain ⟨rfl, rfl⟩ := List.cons.inj written
        refine .four ?_ ?_ ?_ ?_ ?_ ?_
        all_goals
          simp [isContinuation_iff, isSecondOfFour_iff, payload]
          omega

/-- Only the number zero is spelled with a zero byte. -/
theorem eq_zero (spells : Spells number lead tail) (zero : 0 ∈ lead :: tail) : number = 0 := by
  cases spells with
  | one low value =>
      rw [value, ← List.mem_singleton.mp zero]
      rfl
  | two low high first value =>
      rw [isContinuation_iff] at first
      simp [← UInt8.toNat_inj] at zero
      omega
  | three low high first second value =>
      rw [isSecondOfThree_iff] at first
      rw [isContinuation_iff] at second
      simp [← UInt8.toNat_inj] at zero
      omega
  | four low high first second third value =>
      rw [isSecondOfFour_iff] at first
      rw [isContinuation_iff] at second third
      simp [← UInt8.toNat_inj] at zero
      omega

end Spells

/-! ## Single characters -/

/-- A character reads back, whatever follows it. -/
theorem next_encodeChar (written : String.utf8EncodeChar c = lead :: tail) (rest : Bytes) :
    next lead (tail ++ rest) = (.char c, tail.length) := by
  rw [(Spells.of_written written).next rest, Char.ofNat_toNat]

/-- What is read as a character is that character, written, and what follows it. -/
theorem encodeChar_of_next (read : next lead rest = (.char c, length)) :
    String.utf8EncodeChar c ++ rest.drop length = lead :: rest := by
  obtain ⟨number, tail, more, spells, rfl, rfl, rfl⟩ := Spells.of_next read
  rw [spells.written, List.drop_left]
  rfl

/-- Only NUL is written with a zero byte. -/
theorem zero_mem_encodeChar : 0 ∈ String.utf8EncodeChar c ↔ c = '\x00' := by
  constructor
  · intro zero
    cases written : String.utf8EncodeChar c with
    | nil => exact absurd written String.utf8EncodeChar_ne_nil
    | cons lead tail =>
        rw [written] at zero
        exact Char.toNat_inj.mp ((Spells.of_written written).eq_zero zero)
  · rintro rfl
    decide

/-! ## Texts -/

/-- Text is read character by character. -/
theorem pieces_encodeChars (text : List Char) :
    pieces (text.flatMap String.utf8EncodeChar) = text.map .char := by
  induction text with
  | nil => simp [pieces]
  | cons c text inductionHypothesis =>
      cases written : String.utf8EncodeChar c with
      | nil => exact absurd written String.utf8EncodeChar_ne_nil
      | cons lead tail =>
          rw [List.flatMap_cons, written, List.cons_append, pieces, next_encodeChar written]
          simp [inductionHypothesis]

/-- A byte string without ill-formed runs is the spelling of the text that is read from it. -/
theorem encodeChars_of_pieces {bytes : Bytes} {text : List Char}
    (read : pieces bytes = text.map .char) : text.flatMap String.utf8EncodeChar = bytes := by
  fun_induction pieces bytes generalizing text with
  | case1 => simp_all
  | case2 lead rest piece length first inductionHypothesis =>
      cases text with
      | nil => simp at read
      | cons c text =>
          simp only [List.map_cons, List.cons.injEq] at read
          obtain ⟨rfl, others⟩ := read
          rw [List.flatMap_cons, inductionHypothesis others, encodeChar_of_next first]

theorem mapM_char?_eq_some_iff {pieces : List Piece} {text : List Char} :
    pieces.mapM Piece.char? = some text ↔ pieces = text.map .char := by
  induction pieces generalizing text with
  | nil => cases text <;> simp
  | cons piece pieces inductionHypothesis =>
      cases piece with
      | illFormed => cases text <;> simp [Piece.char?]
      | char c =>
          cases text with
          | nil => simp [Piece.char?, Option.bind_eq_some_iff]
          | cons d text =>
              simp [Piece.char?, Option.bind_eq_some_iff, inductionHypothesis]
              exact and_comm

/-- A byte string decodes to the text that it spells, and to no other. -/
theorem decode?_eq_some_iff {bytes : Bytes} {text : String} :
    decode? bytes = some text ↔ encode text = bytes := by
  rw [decode?, Option.map_eq_some_iff]
  constructor
  · rintro ⟨chars, read, rfl⟩
    rw [encode, String.toList_ofList]
    exact encodeChars_of_pieces (mapM_char?_eq_some_iff.mp read)
  · rintro rfl
    refine ⟨text.toList, ?_, String.ofList_toList⟩
    exact mapM_char?_eq_some_iff.mpr (pieces_encodeChars text.toList)

/-- Nothing of a well-formed text is replaced. -/
theorem decodeLossy_encode (text : String) : decodeLossy (encode text) = text := by
  rw [decodeLossy, encode, pieces_encodeChars, List.map_map]
  have same : (Piece.shown ∘ Piece.char) = id := rfl
  rw [same, List.map_id, String.ofList_toList]

/-- The spelling of a text up to its first zero byte is that of the text up to its first
NUL. -/
theorem takeWhile_encodeChars (text : List Char) :
    (text.flatMap String.utf8EncodeChar).takeWhile (· ≠ 0) =
      (text.takeWhile (· ≠ '\x00')).flatMap String.utf8EncodeChar := by
  induction text with
  | nil => rfl
  | cons c text inductionHypothesis =>
      rw [List.flatMap_cons, List.takeWhile_cons]
      by_cases nul : c = '\x00'
      · subst nul
        rfl
      · have plain : ∀ b ∈ String.utf8EncodeChar c, decide (b ≠ 0) = true := by
          intro b member
          refine decide_eq_true fun zero => nul (zero_mem_encodeChar.mp ?_)
          exact zero ▸ member
        rw [List.takeWhile_append_of_pos plain, inductionHypothesis]
        simp [nul]

/-- A text up to its first NUL. -/
def upToNul (text : String) : String := String.ofList (text.toList.takeWhile (· ≠ '\x00'))

theorem takeWhile_encode (text : String) :
    (encode text).takeWhile (· ≠ 0) = encode (upToNul text) := by
  rw [encode, takeWhile_encodeChars, encode, upToNul, String.toList_ofList]

theorem upToNul_of_free {text : String} (free : '\x00' ∉ text.toList) : upToNul text = text := by
  rw [upToNul, List.takeWhile_eq_self_iff.mpr, String.ofList_toList]
  intro c member
  exact decide_eq_true fun nul => free (nul ▸ member)

end Netplay.Utf8
