import LogIntake.Number.Double
import LogIntake.Text.Digits

/-!
# Numbers as they are written

* `Figures`: the digits of a decimal number before and behind its point, and a power of ten.
* `Figures.read?`: reads them from the front of a text.
* `Figures.integer?`, `Figures.double?`: the number of 64 bits, or the one of double precision.
-/

namespace LogIntake

open Text

/-- The parts of a decimal number, without its sign. -/
structure Figures where
  whole : List Char
  /-- The digits behind the point, if there is a point. -/
  fraction : Option (List Char)
  /-- The power of ten, if one is written. -/
  exponent : Option Int
deriving DecidableEq, Repr

namespace Figures

/-- Reads a power of ten, if there is one. -/
def exponent? : List Char → Option (Option Int × List Char)
  | [] => some (none, [])
  | c :: s =>
    if c = 'e' || c = 'E' then do
      let (negative, s) := sign s
      let digits := s.takeWhile isAsciiDigit
      if digits.isEmpty then none
      let n ← numberIn? 10 digits
      return (some (if negative then -(n : Int) else n), s.drop digits.length)
    else some (none, c :: s)

/-- Reads the parts of a number, of which there is a digit at least. -/
def read? (s : List Char) : Option (Figures × List Char) := do
  let whole := s.takeWhile isAsciiDigit
  let (fraction, rest) := match s.drop whole.length with
    | '.' :: rest => (some (rest.takeWhile isAsciiDigit), rest.dropWhile isAsciiDigit)
    | rest => (none, rest)
  let (exponent, rest) ← exponent? rest
  if whole.isEmpty && (fraction.getD []).isEmpty then none
  return (⟨whole, fraction, exponent⟩, rest)

/-- The number has neither a point nor a power of ten. -/
def isWhole (f : Figures) : Bool :=
  f.fraction.isNone && f.exponent.isNone

/-- The number begins with a zero that it does not need. -/
def isPadded (f : Figures) : Bool :=
  1 < f.whole.length && f.whole.head? = some '0'

/-- The decimal number. -/
def decimal (f : Figures) : Decimal :=
  let places := f.fraction.getD []
  ⟨(numberIn? 10 (f.whole ++ places)).getD 0, f.exponent.getD 0 - places.length⟩

/-- A whole number of 64 bits. -/
def integer? (negative : Bool) (f : Figures) : Option Int :=
  let n : Int := if negative then -f.decimal.digits else f.decimal.digits
  if f.isWhole && fits64 n then some n else none

/-- The nearest number of double precision, unless the number is too great. -/
def double? (negative : Bool) (f : Figures) : Option Double :=
  Double.ofDecimal? negative f.decimal

end Figures

end LogIntake
