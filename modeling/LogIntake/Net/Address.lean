import LogIntake.Text.CharClass

/-!
# Network addresses

* `IpAddress`: an address of four octets or of eight segments.
* `IpAddress.parse?`: the address that a text names.
* `IpAddress.text`: the one text that an address is shown as.
-/

namespace LogIntake

/-- The address of a machine or of a group of machines. -/
inductive IpAddress where
  | v4 (octets : Vector UInt8 4)
  | v6 (segments : Vector UInt16 8)
deriving DecidableEq, Repr

namespace IpAddress

/-! ## Reading -/

/-- The value of a digit of either case, in a base of at most sixteen. -/
def digit? (base : Nat) (c : Char) : Option Nat :=
  let value :=
    if Text.isAsciiDigit c then some (c.toNat - '0'.toNat)
    else if 'a' ≤ c ∧ c ≤ 'f' then some (c.toNat - 'a'.toNat + 10)
    else if 'A' ≤ c ∧ c ≤ 'F' then some (c.toNat - 'A'.toNat + 10)
    else none
  value.filter (· < base)

/-- The number at the start of a text and what follows it. All the digits there are belong to the
number, which must not have more of them than a given count. -/
def number? (base most : Nat) (s : List Char) : Option (Nat × List Char) :=
  let digits := s.takeWhile fun c => (digit? base c).isSome
  if digits.isEmpty || most < digits.length then none
  else
    some ((digits.filterMap (digit? base)).foldl (fun n d => n * base + d) 0, s.drop digits.length)

/-- An octet in decimal digits, without zeros in front. -/
def octet? (s : List Char) : Option (UInt8 × List Char) := do
  let (n, rest) ← number? 10 3 s
  if n < 256 ∧ (s.head? = some '0' → s.length = rest.length + 1) then some (n.toUInt8, rest) else none

/-- What follows a given character. -/
def after? (c : Char) : List Char → Option (List Char)
  | [] => none
  | d :: rest => if d = c then some rest else none

/-- Four octets with points between them, and what follows them. -/
def quad? (s : List Char) : Option (Vector UInt8 4 × List Char) := do
  let (a, s) ← octet? s
  let (b, s) ← octet? (← after? '.' s)
  let (c, s) ← octet? (← after? '.' s)
  let (d, s) ← octet? (← after? '.' s)
  return (#v[a, b, c, d], s)

/-- The two segments that a pair of octets each makes up. -/
def segmentsOf (octets : Vector UInt8 4) : List UInt16 :=
  let join (high low : UInt8) : UInt16 := high.toUInt16 * 256 + low.toUInt16
  [join octets[0] octets[1], join octets[2] octets[3]]

/-- As many segments as a text starts with, at most a given number, with colons between them. Four
octets may stand for the last two. Whether they do is told, and what follows is given back. -/
def segments : Nat → Bool → List Char → List UInt16 × Bool × List Char
  | 0, _, s => ([], false, s)
  | more + 1, first, s =>
    let start := if first then some s else after? ':' s
    match if more = 0 then none else start.bind quad? with
    | some (octets, rest) => (segmentsOf octets, true, rest)
    | none =>
      match start.bind (number? 16 4) with
      | none => ([], false, s)
      | some (n, rest) =>
        let (others, quad, rest) := segments more false rest
        (n.toUInt16 :: others, quad, rest)

/-- Eight segments. Two colons stand for one or more segments that are zero. -/
def eight? (s : List Char) : Option (List UInt16 × List Char) :=
  let (front, quad, s) := segments 8 true s
  if front.length = 8 then some (front, s)
  else if quad then none
  else do
    let s ← after? ':' (← after? ':' s)
    let (back, _, s) := segments (7 - front.length) true s
    return (front ++ List.replicate (8 - front.length - back.length) 0 ++ back, s)

/-- The address that the whole of a text names. -/
def parse? (text : String) : Option IpAddress :=
  let s := text.toList
  match quad? s with
  | some (octets, rest) => if rest.isEmpty then some (.v4 octets) else none
  | none =>
    match eight? s with
    | some (segments, []) =>
      if h : segments.length = 8 then some (.v6 ⟨segments.toArray, by simpa using h⟩) else none
    | _ => none

/-! ## Writing -/

/-- Four octets in decimal digits. -/
def quadText (octets : List UInt8) : String :=
  ".".intercalate (octets.map fun octet => String.ofList (Nat.toDigits 10 octet.toNat))

/-- Segments in hexadecimal digits. -/
def segmentsText (segments : List UInt16) : String :=
  ":".intercalate (segments.map fun segment => String.ofList (Nat.toDigits 16 segment.toNat))

/-- The length of the run of zeros that each place starts. -/
def zeroRuns : List UInt16 → List Nat
  | [] => []
  | segment :: rest =>
    let runs := zeroRuns rest
    (if segment = 0 then runs.head?.getD 0 + 1 else 0) :: runs

/-- Where the first of the longest runs of zeros starts, and its length. -/
def longestZeros (segments : List UInt16) : Nat × Nat :=
  let runs := zeroRuns segments
  let most := runs.foldl max 0
  (runs.idxOf most, most)

/-- The text of an address: lower case, without zeros in front, and with the first of the longest runs
of two or more zero segments left out. An address of four octets in eight segments shows them. -/
def text : IpAddress → String
  | .v4 octets => quadText octets.toList
  | .v6 segments =>
    match segments.toList with
    | [0, 0, 0, 0, 0, 0xffff, a, b] =>
      "::ffff:" ++ quadText [(a / 256).toUInt8, a.toUInt8, (b / 256).toUInt8, b.toUInt8]
    | segments =>
      let (start, length) := longestZeros segments
      if length > 1 then
        segmentsText (segments.take start) ++ "::" ++ segmentsText (segments.drop (start + length))
      else segmentsText segments

end IpAddress

end LogIntake
