import LogIntake.Number.Decimal

/-!
# Numbers of double precision

A finite number of double precision is a whole number below `2 ^ 53` times a power of two.

* `Double`: such a number, infinity, or no number.
* `Double.ofDecimal?`: the number nearest to a decimal one.
* `Double.shortest`: the shortest decimal number to which no other one of double precision is nearer.
* `Double.round`, `Double.text`: the nearest whole number, and the shortest text.
-/

namespace LogIntake

/-- A number of double precision. -/
inductive Double where
  /-- The number `mantissa * 2 ^ exponent`, or its opposite. -/
  | finite (negative : Bool) (mantissa : Nat) (exponent : Int)
  | infinite (negative : Bool)
  | notANumber
deriving DecidableEq, Repr

namespace Double

/-- The number of bits of a mantissa. -/
def precision : Nat := 53

/-- The least power of two. -/
def leastExponent : Int := -1074

/-- The greatest power of two. -/
def greatestExponent : Int := 971

/-- Zero with a sign. -/
def zero (negative : Bool) : Double := .finite negative 0 leastExponent

/-! ## From decimal numbers -/

/-- A fraction of a power of two, as numerator and denominator. -/
def scale (numerator denominator : Nat) (exponent : Int) : Nat × Nat :=
  if 0 ≤ exponent then (numerator, denominator * Nat.pow 2 exponent.toNat)
  else (numerator * Nat.pow 2 (-exponent).toNat, denominator)

/-- The whole number nearest to a fraction; a half goes to the even one. -/
def roundToEven (numerator denominator : Nat) : Nat :=
  let whole := numerator / denominator
  let rest := 2 * (numerator % denominator)
  if denominator < rest || (rest = denominator && whole % 2 = 1) then whole + 1 else whole

/-- The mantissa and the power of two that are nearest to a fraction. -/
def nearest (numerator denominator : Nat) : Nat × Int :=
  let guess := max ((numerator.log2 : Int) - denominator.log2 - precision) leastExponent
  let (n, d) := scale numerator denominator guess
  let exponent := if n / d < Nat.pow 2 precision then guess else guess + 1
  let (n, d) := scale numerator denominator exponent
  let mantissa := roundToEven n d
  if mantissa = Nat.pow 2 precision then (Nat.pow 2 (precision - 1), exponent + 1)
  else (mantissa, exponent)

/-- The number nearest to a decimal one, unless that is too great. Very small numbers become zero. -/
def ofDecimal? (negative : Bool) (d : Decimal) : Option Double :=
  let size := d.exponent + d.length
  if d.digits = 0 || size < -330 then some (zero negative)
  else if 310 < size then none
  else
    let (numerator, denominator) := d.ratio
    let (mantissa, exponent) := nearest numerator denominator
    if greatestExponent < exponent then none else some (.finite negative mantissa exponent)

/-! ## To decimal numbers -/

/-- The position of the first digit of a positive fraction: `10 ^ (p - 1) ≤ n / d < 10 ^ p`. -/
def leadingPosition (numerator denominator : Nat) : Int :=
  if denominator ≤ numerator then (Nat.toDigits 10 (numerator / denominator)).length
  else 1 - (Nat.toDigits 10 (denominator / numerator)).length

/-- The numbers that have a given one nearest to them lie between its halfway points to its two
neighbours. They are told in quarters of the power of two; the neighbour below a power of two is twice
as near. -/
def halfways (mantissa : Nat) (exponent : Int) : Nat × Nat :=
  let closer := mantissa = Nat.pow 2 (precision - 1) && leastExponent < exponent
  (4 * mantissa - (if closer then 1 else 2), 4 * mantissa + 2)

/-- Whether a decimal number has the given one nearest to it. A halfway point belongs to the even one
of its two neighbours. -/
def isNearest (mantissa : Nat) (exponent : Int) (d : Decimal) : Bool :=
  let (low, high) := halfways mantissa exponent
  let (numerator, denominator) := d.ratio
  let (n, q) := scale numerator denominator (exponent - 2)
  if mantissa % 2 = 0 then low * q ≤ n && n ≤ high * q else low * q < n && n < high * q

/-- The decimal number of so many digits that is nearest to a given number, if that in turn is the one
nearest to it. Of two that are equally near the greater one is taken. -/
def shortestOf? (mantissa : Nat) (exponent : Int) (numerator denominator : Nat) (count : Nat) :
    Option Decimal :=
  let step := leadingPosition numerator denominator - count
  let (n, q) :=
    if 0 ≤ step then (numerator, denominator * Nat.pow 10 step.toNat)
    else (numerator * Nat.pow 10 (-step).toNat, denominator)
  let below : Decimal := ⟨n / q, step⟩
  let above : Decimal := ⟨n / q + 1, step⟩
  let order := if 2 * (n % q) < q then [below, above] else [above, below]
  order.find? (isNearest mantissa exponent)

/-- The shortest decimal number to which no other number of double precision is nearer. Seventeen
digits always suffice. -/
def shortest (mantissa : Nat) (exponent : Int) : Decimal :=
  let (numerator, denominator) := scale mantissa 1 (-exponent)
  ((List.range 17).findSome? fun i =>
    shortestOf? mantissa exponent numerator denominator (i + 1)).getD ⟨0, 0⟩

/-- The text of a number: the shortest one that tells it, in positional notation. -/
def text : Double → String
  | .notANumber => "NaN"
  | .infinite negative => if negative then "-inf" else "inf"
  | .finite negative mantissa exponent =>
    let d := if mantissa = 0 then ⟨0, 0⟩ else shortest mantissa exponent
    (if negative then "-" else "") ++ String.ofList d.text

/-! ## Other views -/

/-- The nearest whole number; a half goes away from zero. -/
def round : Double → Int
  | .notANumber => 0
  | .infinite negative => if negative then -(Nat.pow 2 64 : Nat) else (Nat.pow 2 64 : Nat)
  | .finite negative mantissa exponent =>
    let (n, d) := scale mantissa 1 (-exponent)
    let size : Int := ((2 * n + d) / (2 * d) : Nat)
    if negative then -size else size

/-- The number differs from zero. -/
def isNonzero : Double → Bool
  | .finite _ mantissa _ => mantissa != 0
  | _ => true

example : ((ofDecimal? false ⟨9007199254740993, 0⟩).map text) = some "9007199254740992" := by
  decide +kernel

example : ofDecimal? false ⟨9, 308⟩ = none := by decide +kernel

end Double

end LogIntake
