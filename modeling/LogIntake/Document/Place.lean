import LogIntake.Document.Value
import LogIntake.Text.Digits

/-!
# Places in a document

A key such as `receivers[0].name` tells a place inside a table: names, and positions in arrays.

* `Step`: a step on the way to a place.
* `placeOf`: the way that a key tells. A key that tells none is a name.
* `Value.change`: a change of what stands at a place, which is made if there is none.
* `Table.overlay`: the entries of a document laid over those of another one.
-/

namespace LogIntake.Document

/-- A step on the way to a place. -/
inductive Step where
  | entry (key : String)
  /-- An element of an array, counted from the end if the number is negative. -/
  | element (position : Int)
deriving DecidableEq, Repr

/-! ## Ways -/

/-- A character of a name on the way. -/
def isNamePart (c : Char) : Bool :=
  Text.isAsciiLetter c || Text.isAsciiDigit c || c == ' ' || c == '_' || c == '-'

/-- Reads a position of 64 bits, with blanks around it. -/
def position? (s : List Char) : Option (Int × List Char) :=
  let s := s.dropWhile Text.isGap
  let (negative, s) := match s with
    | '-' :: rest => (true, rest)
    | s => (false, s)
  let digits := s.takeWhile Text.isAsciiDigit
  let size : Int := (digits.foldl (fun n c => n * 10 + Text.digitValue c) 0 : Nat)
  let n := if negative then -size else size
  if !digits.isEmpty && Text.fits64 n then
    some (n, (s.drop digits.length).dropWhile Text.isGap)
  else none

/-- Reads a name. -/
def name? (s : List Char) : Option (String × List Char) :=
  let name := s.takeWhile isNamePart
  if name.isEmpty then none else some (String.ofList name, s.drop name.length)

/-- The steps that a text tells, at most so many. -/
def steps? : Nat → List Char → Option (List Step)
  | _, [] => some []
  | 0, _ => none
  | count + 1, '.' :: s => do
    let (name, rest) ← name? s
    return .entry name :: (← steps? count rest)
  | count + 1, '[' :: s => do
    match ← position? s with
    | (position, ']' :: rest) => return .element position :: (← steps? count rest)
    | _ => none
  | _, _ => none

/-- The way that a key tells: a name, then names behind dots and positions in brackets. Any other key
is a name itself. -/
def placeOf (key : String) : List Step :=
  ((steps? (key.length + 1) ('.' :: key.toList))).getD [.entry key]

example : placeOf "receivers[ -1 ].file name" =
    [.entry "receivers", .element (-1), .entry "file name"] := by decide +kernel

example : placeOf "receivers[+1]" = [.entry "receivers[+1]"] := by decide +kernel

/-! ## Changes -/

/-- Elements among which there is one at a position, and its number. Absent values are put behind the
others, or in front of them, to make room. -/
def makeRoom (position : Int) (elements : List Value) : List Value × Nat :=
  let number := if 0 ≤ position then position else elements.length + position
  if 0 ≤ number then
    (elements ++ List.replicate (number.toNat + 1 - elements.length) .absent, number.toNat)
  else (List.replicate number.natAbs .absent ++ elements, 0)

/-- Changes what stands at the end of a way. What is no table gives way to an empty one where an entry
is asked for, and so does what is no array where an element is. -/
def Value.change (f : Value → Value) : List Step → Value → Value
  | [], v => f v
  | .entry key :: way, v =>
    let below := (v.entries.lookup key).getD .absent
    .table (Table.set key (change f way below) v.entries)
  | .element position :: way, v =>
    let (elements, number) := makeRoom position v.elements
    .array (elements.modify number (change f way))

/-- The entries of a document laid over those of another one, each at the place that its key tells. -/
def Table.overlay (lower upper : Table) : Table :=
  (upper.foldl (fun v (key, value) => v.change (·.merge value) (placeOf key))
    (Value.table lower)).entries

end LogIntake.Document
