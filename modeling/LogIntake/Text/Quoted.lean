import LogIntake.Text.CharClass
import LogIntake.Text.Unprintable

/-!
# Quoted text

* `quoteChar`: a character as it stands between double quotes.
* `quote`: a text between double quotes in which every character can be seen.
-/

namespace LogIntake.Text

/-- A character between double quotes: what cannot be seen by itself is written as its code point. -/
def quoteChar (c : Char) : List Char :=
  if c = '\x00' then ['\\', '0']
  else if c = '\t' then ['\\', 't']
  else if c = '\r' then ['\\', 'r']
  else if c = '\n' then ['\\', 'n']
  else if c = '\\' then ['\\', '\\']
  else if c = '"' then ['\\', '"']
  else if inRanges extendingRanges c.toNat || inRanges unprintableRanges c.toNat then
    ['\\', 'u', '\x7b'] ++ Nat.toDigits 16 c.toNat ++ ['\x7d']
  else [c]

/-- A text between double quotes. -/
def quote (s : String) : String :=
  "\"" ++ String.ofList (s.toList.flatMap quoteChar) ++ "\""

end LogIntake.Text
