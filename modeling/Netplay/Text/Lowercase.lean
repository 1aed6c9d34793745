/-
Module: Netplay.Text.Lowercase
Purpose: Lower case of a text by the Unicode rules.
Main exports:
  Text.lowerChar, Text.isWordEnd, Text.lowercase
-/
import Netplay.Text.CaseTable

namespace Netplay.Text

/-!
Every character has a lower case of its own but one: a capital sigma becomes
a final sigma at the end of a word.  The one character whose lower case is two
characters is the dotted capital I.
-/

/-- Whether a code point lies in one of the ranges. -/
def inRanges (ranges : List (Nat × Nat)) (code : Nat) : Bool :=
  ranges.any fun (first, last) => first ≤ code && code ≤ last

/-- Whether a run maps a code point. -/
def CaseRun.maps (run : CaseRun) (code : Nat) : Bool :=
  run.first ≤ code && code ≤ run.last && (code - run.first) % run.stride = 0

/-- The lower case of a character other than the capital sigma. -/
def lowerChar (c : Char) : List Char :=
  if c = '\u0130' then ['i', '\u0307']
  else
    match lowerRuns.find? (·.maps c.toNat) with
    | some run => [Char.ofNat (c.toNat + run.ahead - run.behind)]
    | none => [c]

/-- Whether the first character that is not ignored is a cased one. -/
def startsCased (chars : List Char) : Bool :=
  match chars.dropWhile (inRanges caseIgnorableRanges ·.toNat) with
  | [] => false
  | c :: _ => inRanges casedRanges c.toNat

/-- Whether a place ends a word: letters come before it and none after it.
`before` is given backwards. -/
def isWordEnd (before after : List Char) : Bool :=
  startsCased before && !startsCased after

/-- The lower case of `chars`, which follow the characters `before`, given
backwards. -/
def lowerFrom (before : List Char) : List Char → List Char
  | [] => []
  | c :: rest =>
      let lowered :=
        if c = 'Σ' then [if isWordEnd before rest then 'ς' else 'σ']
        else lowerChar c
      lowered ++ lowerFrom (c :: before) rest

/-- The lower case of a text. -/
def lowercase (text : String) : String :=
  String.ofList (lowerFrom [] text.toList)

end Netplay.Text
