import LogIntake.Text.Alphabetic
import LogIntake.Text.Numeric
import LogIntake.Text.Joiner
import LogIntake.Text.Recent
import LogIntake.Text.Cased

/-!
# Character classes

* `inRanges`: membership in an ascending table of code point ranges.
* `isBlank`: the White_Space property.
* `isDecimalDigit`, `isAlphanumeric`, `isWordChar`: digits, letters with numbers, and the characters
  that continue a word.
* `isCased`, `isCaseIgnorable`: what the rules of case ask of a neighbour.
-/

namespace LogIntake.Text

/-- Whether `n` lies in one of the ranges. The table ascends, so the search ends at the first range
that begins after `n`. -/
def inRanges : List (Nat × Nat) → Nat → Bool
  | [], _ => false
  | (first, last) :: rest, n => if n < first then false else n ≤ last || inRanges rest n

/-- The ranges of the White_Space property, in ascending order. -/
def blankRanges : List (Nat × Nat) :=
  [(0x09, 0x0D), (0x20, 0x20), (0x85, 0x85), (0xA0, 0xA0), (0x1680, 0x1680), (0x2000, 0x200A),
    (0x2028, 0x2029), (0x202F, 0x202F), (0x205F, 0x205F), (0x3000, 0x3000)]

/-- White space: blanks, tabs, line breaks and the typographic spaces. -/
def isBlank (c : Char) : Bool :=
  inRanges blankRanges c.toNat

/-- A gap inside a line is made of blanks and tabs only. -/
def isGap (c : Char) : Bool :=
  c == ' ' || c == '\t'

/-- A decimal digit of any script that the matching of lines knows. -/
def isDecimalDigit (c : Char) : Bool :=
  inRanges decimalDigitRanges c.toNat

/-- A letter that the matching of lines knows. -/
def isAlphabetic (c : Char) : Bool :=
  inRanges alphabeticRanges c.toNat

/-- A letter or a number of any kind, however recent. -/
def isAlphanumeric (c : Char) : Bool :=
  isAlphabetic c || isDecimalDigit c || inRanges otherNumberRanges c.toNat ||
    inRanges recentLetterRanges c.toNat || inRanges recentNumberRanges c.toNat

/-- A character that continues a word: a letter, a digit, a mark, a connector or a join control. -/
def isWordChar (c : Char) : Bool :=
  isAlphabetic c || isDecimalDigit c || inRanges joinerRanges c.toNat

/-- A letter that has a case. -/
def isCased (c : Char) : Bool :=
  inRanges casedRanges c.toNat

/-- A character that the rules of case pass over. -/
def isCaseIgnorable (c : Char) : Bool :=
  inRanges caseIgnorableRanges c.toNat

/-- A letter of the English alphabet. -/
def isAsciiLetter (c : Char) : Bool :=
  ('a' ≤ c && c ≤ 'z') || ('A' ≤ c && c ≤ 'Z')

/-- One of the ten digits `0` to `9`. -/
def isAsciiDigit (c : Char) : Bool :=
  '0' ≤ c && c ≤ '9'

/-- The value of one of the ten digits. -/
def digitValue (c : Char) : Nat :=
  c.toNat - '0'.toNat

/-- The small letter of a capital English letter; all else is kept. -/
def asciiLower (c : Char) : Char :=
  if 'A' ≤ c && c ≤ 'Z' then Char.ofNat (c.toNat + 32) else c

/-- The capital letter of a small English letter; all else is kept. -/
def asciiUpper (c : Char) : Char :=
  if 'a' ≤ c && c ≤ 'z' then Char.ofNat (c.toNat - 32) else c

/-! ## Small facts -/

example : isBlank '\u3000' = true ∧ isBlank '\u200b' = false := by decide

example : isDecimalDigit '٣' = true ∧ isAlphanumeric '½' = true ∧ isWordChar '½' = false := by
  decide

/-- A gap character is white space. -/
theorem isBlank_of_isGap {c : Char} (h : isGap c = true) : isBlank c = true := by
  simp only [isGap, Bool.or_eq_true, beq_iff_eq] at h
  rcases h with rfl | rfl <;> decide

end LogIntake.Text
