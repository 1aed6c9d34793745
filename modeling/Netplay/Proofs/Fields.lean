/-
Module: Netplay.Proofs.Fields
Purpose: Each field of a body reads back as it was written, whatever follows it, and so
  does a row of entries.
Main exports:
  Field.text_putText, Field.u16_ofUInt16, Field.u32_ofUInt32, Field.rows,
  Field.rows_flatMap
-/
import Netplay.Proofs.Spelling
import Netplay.Wire.Body

namespace Netplay.Field

/-! ## Single fields -/

/-- A text reads back up to its first NUL. -/
theorem text_putText (value : String) (rest : Bytes) :
    text (putText value ++ rest) = .ok (Utf8.upToNul value, rest) := by
  have plain : ∀ b ∈ Utf8.encode (Utf8.upToNul value), decide (b ≠ 0) = true := by
    rw [← Utf8.takeWhile_encode]
    exact fun b => List.mem_takeWhile_imp
  have raw : (putText value ++ rest).takeWhile (· ≠ 0) =
      Utf8.encode (Utf8.upToNul value) := by
    rw [putText, Utf8.takeWhile_encode, List.append_assoc,
      List.takeWhile_append_of_pos plain]
    simp
  have ends : (putText value ++ rest).drop (Utf8.encode (Utf8.upToNul value)).length =
      0 :: rest := by
    rw [putText, Utf8.takeWhile_encode, List.append_assoc, List.drop_left]
    rfl
  simp only [text, raw, ends, Utf8.decodeLossy_encode]

theorem text_blank (rest : Bytes) : text (Body.blank ++ rest) = .ok ("", rest) :=
  text_putText "" rest

theorem u8_singleton (value : UInt8) (rest : Bytes) : u8 ([value] ++ rest) = .ok (value, rest) :=
  rfl

theorem u16_ofUInt16 (value : UInt16) (rest : Bytes) :
    u16 (Bytes.ofUInt16 value ++ rest) = .ok (value, rest) := by
  simp only [Bytes.ofUInt16, List.cons_append, List.nil_append, u16,
    Bytes.toUInt16_ofUInt16]

theorem u32_ofUInt32 (value : UInt32) (rest : Bytes) :
    u32 (Bytes.ofUInt32 value ++ rest) = .ok (value, rest) := by
  simp only [Bytes.ofUInt32, List.cons_append, List.nil_append, u32,
    Bytes.toUInt32_ofUInt32]

theorem bytes_length (data : Bytes) : bytes data.length data = .ok (data, []) := by
  rw [bytes, if_neg (Nat.lt_irrefl _), List.take_length, List.drop_length]

/-! ## Rows of entries -/

variable {Entry Row : Type}

/-- Read so many entries, one after the other. -/
def rows (read : Bytes → Except FormatError (Row × Bytes)) :
    Nat → Bytes → Except FormatError (List Row × Bytes)
  | 0, body => return ([], body)
  | count + 1, body => do
      let (row, rest) ← read body
      let (others, rest) ← rows read count rest
      return (row :: others, rest)

/-- If each entry reads back, so does a row of them. -/
theorem rows_flatMap {read : Bytes → Except FormatError (Row × Bytes)} {write : Entry → Bytes}
    {row : Entry → Row} (reads : ∀ entry rest, read (write entry ++ rest) = .ok (row entry, rest))
    (entries : List Entry) (rest : Bytes) :
    rows read entries.length (entries.flatMap write ++ rest) = .ok (entries.map row, rest) := by
  induction entries with
  | nil => rfl
  | cons entry entries inductionHypothesis =>
      rw [List.flatMap_cons, List.append_assoc, List.length_cons, rows, reads]
      simp only [bind, Except.bind, inductionHypothesis]
      rfl

end Netplay.Field
