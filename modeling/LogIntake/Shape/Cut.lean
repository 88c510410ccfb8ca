import LogIntake.Shape.Basic

/-!
# The preferred cut

A text may be cut along a shape in several ways. The preferred one is settled piece by piece from
the left: each run takes the shortest or the longest part, as its reach says, that leaves a rest
which the remaining pieces can be cut along.

* `Piece.choices`: for each position of a text the length that a piece takes there.
* `Shape.choices`: the same for all pieces of a shape, worked out from the right.
* `Shape.cut?`: the parts of the preferred cut.
* `Prefers`: when one cut goes before another.
-/

namespace LogIntake

/-- At which positions of a text the empty shape fits: only at its end. -/
def fitsAtEnd : List Char → List Bool
  | [] => [true]
  | _ :: rest => false :: fitsAtEnd rest

/-- For each position the length of a possibly empty run, where `fits` marks the positions at which
the rest of the shape fits. -/
def runChoices (accepts : Char → Bool) (reach : Reach) : List Char → List Bool → List (Option Nat)
  | [], fits => [if fits.headD false then some 0 else none]
  | c :: rest, fits =>
    let later := runChoices accepts reach rest fits.tail
    let longer := if accepts c then (later.headD none).map (· + 1) else none
    let empty := if fits.headD false then some 0 else none
    (match reach with
      | .shortest => empty.or longer
      | .longest => longer.or empty) :: later

/-- For each position the length of a nonempty run, from the choices for a possibly empty one. -/
def nonemptyChoices (accepts : Char → Bool) : List Char → List (Option Nat) → List (Option Nat)
  | [], _ => [none]
  | c :: rest, choices =>
    (if accepts c then (choices.tail.headD none).map (· + 1) else none) ::
      nonemptyChoices accepts rest choices.tail

/-- For each position the length of a fixed text. -/
def literalChoices (text : List Char) : List Char → List Bool → List (Option Nat)
  | [], fits => [if text.isEmpty && fits.headD false then some 0 else none]
  | c :: rest, fits =>
    (if text.isPrefixOf (c :: rest) && (fits.drop text.length).headD false then some text.length
      else none) :: literalChoices text rest fits.tail

/-- For each position of a text the length that a piece takes there, if it and the rest of the shape
fit from there on. -/
def Piece.choices : Piece → List Char → List Bool → List (Option Nat)
  | .literal text, s, fits => literalChoices text s fits
  | .run kind nonempty reach, s, fits =>
    let choices := runChoices kind.accepts reach s fits
    if nonempty then nonemptyChoices kind.accepts s choices else choices

/-- The choices of all pieces, a row for each piece. -/
def Shape.choices : Shape → List Char → List (List (Option Nat))
  | [], _ => []
  | p :: shape, s =>
    let rows := Shape.choices shape s
    let fits := match rows with
      | [] => fitsAtEnd s
      | row :: _ => row.map Option.isSome
    p.choices s fits :: rows

/-- Follows the choices from a position on, where the text `s` remains, and cuts off part after
part. -/
def followChoices : List (List (Option Nat)) → Nat → List Char → Option (List (List Char))
  | [], _, s => if s.isEmpty then some [] else none
  | row :: rows, position, s =>
    match row.getD position none with
    | none => none
    | some k => (followChoices rows (position + k) (s.drop k)).map (s.take k :: ·)

/-- The parts of the preferred cut of a text along a shape, if there is a cut at all. -/
def Shape.cut? (shape : Shape) (s : List Char) : Option (List (List Char)) :=
  followChoices (shape.choices s) 0 s

/-- Whether a length comes before another in the order of preference of a piece. -/
def Piece.Prefers : Piece → Nat → Nat → Prop
  | .literal _, _, _ => False
  | .run _ _ .shortest, k, n => k < n
  | .run _ _ .longest, k, n => n < k

/-- One cut goes before another if, at the first piece where their parts differ in length, its part
has the preferred length. -/
inductive Prefers : Shape → List (List Char) → List (List Char) → Prop where
  | here {p : Piece} {shape : Shape} {a b : List Char} {as bs : List (List Char)} :
      p.Prefers a.length b.length → Prefers (p :: shape) (a :: as) (b :: bs)
  | later {p : Piece} {shape : Shape} {a b : List Char} {as bs : List (List Char)} :
      a.length = b.length → Prefers shape as bs → Prefers (p :: shape) (a :: as) (b :: bs)

end LogIntake
