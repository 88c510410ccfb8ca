/-!
# Decimal numbers

* `Decimal`: digits and a power of ten.
* `Decimal.ratio`: the number as a fraction.
* `Decimal.normalize`: the number without zeros at the end of its digits.
* `Decimal.text`: the number in positional notation.
-/

namespace LogIntake

/-- The number `digits * 10 ^ exponent`. -/
structure Decimal where
  digits : Nat
  exponent : Int
deriving DecidableEq, Repr

namespace Decimal

/-- The numerator and the denominator of a number. -/
def ratio (d : Decimal) : Nat × Nat :=
  if 0 ≤ d.exponent then (d.digits * Nat.pow 10 d.exponent.toNat, 1)
  else (d.digits, Nat.pow 10 (-d.exponent).toNat)

/-- How many digits a number has. -/
def length (d : Decimal) : Nat :=
  (Nat.toDigits 10 d.digits).length

/-- Drops up to `count` zeros at the end of the digits. -/
def dropZeros : Nat → Decimal → Decimal
  | 0, d => d
  | count + 1, d =>
    if d.digits ≠ 0 && d.digits % 10 = 0 then dropZeros count ⟨d.digits / 10, d.exponent + 1⟩ else d

/-- The number without zeros at the end of its digits. -/
def normalize (d : Decimal) : Decimal :=
  dropZeros d.length d

/-- The number in positional notation, with no more digits than it needs. -/
def text (d : Decimal) : List Char :=
  let d := d.normalize
  let all := Nat.toDigits 10 d.digits
  if d.digits = 0 then ['0']
  else if 0 ≤ d.exponent then all ++ List.replicate d.exponent.toNat '0'
  else
    let places := (-d.exponent).toNat
    let all := List.replicate (places + 1 - all.length) '0' ++ all
    all.take (all.length - places) ++ '.' :: all.drop (all.length - places)

example : String.ofList (Decimal.text ⟨1250, -5⟩) = "0.0125" := by decide +kernel

end Decimal

end LogIntake
