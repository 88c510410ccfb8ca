import LogIntake.Text.CharClass

/-!
# Numbers in a text

* `digitIn?`, `numberIn?`: the value of a digit in a base, and of several ones.
* `sign`: reads the sign of a number, and gives back the rest of the text.
* `fits64`: the whole numbers that have a place in 64 bits.
-/

namespace LogIntake.Text

/-- The value of a digit in a base up to sixteen. -/
def digitIn? (base : Nat) (c : Char) : Option Nat :=
  let n :=
    if isAsciiDigit c then digitValue c
    else if isAsciiLetter c then (asciiLower c).toNat - 'a'.toNat + 10
    else base
  if n < base then some n else none

/-- The value of digits in a base. -/
def numberIn? (base : Nat) (digits : List Char) : Option Nat :=
  digits.foldlM (fun n c => (digitIn? base c).map (n * base + ·)) 0

/-- Reads a sign, if there is one: whether the number behind it is negative. -/
def sign : List Char → Bool × List Char
  | '-' :: rest => (true, rest)
  | '+' :: rest => (false, rest)
  | s => (false, s)

/-- Whether a whole number can be told in 64 bits, one of them for its sign. -/
def fits64 (n : Int) : Bool :=
  -(Nat.pow 2 63 : Nat) ≤ n && n < (Nat.pow 2 63 : Nat)

end LogIntake.Text
