/-
Module: Netplay.Text.Blank
Purpose: Blank text and characters that may not stand in a name.
Main exports:
  Text.isWhiteSpace, Text.isBlank, Text.isControl, Text.isInvisible
-/

namespace Netplay.Text

/-- The Unicode property White_Space. -/
def isWhiteSpace (c : Char) : Bool :=
  let n := c.toNat
  (0x09 ≤ n && n ≤ 0x0D) || n == 0x20 || n == 0x85 || n == 0xA0 ||
    n == 0x1680 || (0x2000 ≤ n && n ≤ 0x200A) || n == 0x2028 || n == 0x2029 ||
    n == 0x202F || n == 0x205F || n == 0x3000

/-- A text is blank when it holds white space only; the empty text is blank. -/
def isBlank (text : String) : Bool :=
  text.toList.all isWhiteSpace

/-- The control characters: general category Cc. -/
def isControl (c : Char) : Bool :=
  let n := c.toNat
  n ≤ 0x1F || (0x7F ≤ n && n ≤ 0x9F)

/-- Characters that hide or reorder the text around them: control characters,
bidirectional overrides and isolates, zero-width characters and the byte order
mark. -/
def isInvisible (c : Char) : Bool :=
  let n := c.toNat
  isControl c || (0x202A ≤ n && n ≤ 0x202E) || (0x2066 ≤ n && n ≤ 0x2069) ||
    (0x200B ≤ n && n ≤ 0x200D) || n == 0xFEFF

/-- Every white space character of the core library is white space here. -/
theorem isWhiteSpace_of_isWhitespace {c : Char} (space : c.isWhitespace = true) :
    isWhiteSpace c = true := by
  simp only [Char.isWhitespace, Bool.or_eq_true, decide_eq_true_eq] at space
  rcases space with ((rfl | rfl) | rfl) | rfl <;> rfl

end Netplay.Text
