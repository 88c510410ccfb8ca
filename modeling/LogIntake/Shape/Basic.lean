import LogIntake.Text.CharClass

/-!
# Shapes of text

* `Piece`: a fixed text, or a run of characters of one kind with the length it prefers.
* `Piece.Fits`: which texts a piece stands for.
* `IsCut`: a text cut into consecutive parts that fit the pieces of a shape.
* `Piece.expression`: a piece written as a regular expression.
-/

namespace LogIntake

/-- The kinds of characters a run is made of. -/
inductive RunKind where
  | anyInLine
  | solid
  | digit
  | gap
deriving DecidableEq, Repr

/-- Any character but a line feed; any but white space; a decimal digit; a blank or a tab. -/
def RunKind.accepts : RunKind → Char → Bool
  | .anyInLine, c => c != '\n'
  | .solid, c => !Text.isBlank c
  | .digit, c => Text.isDecimalDigit c
  | .gap, c => Text.isGap c

/-- Whether a run takes as few or as many characters as the rest of the shape allows. -/
inductive Reach where
  | shortest
  | longest
deriving DecidableEq, Repr

/-- A part of a shape: a fixed text or a run, which may be required to be nonempty. -/
inductive Piece where
  | literal (text : List Char)
  | run (kind : RunKind) (nonempty : Bool) (reach : Reach)
deriving DecidableEq, Repr

/-- A shape is a sequence of pieces. -/
abbrev Shape := List Piece

/-- The texts a piece stands for. -/
def Piece.Fits : Piece → List Char → Prop
  | .literal text, part => part = text
  | .run kind nonempty _, part => (nonempty = true → part ≠ []) ∧ ∀ c ∈ part, kind.accepts c = true

/-- The text `s` cut into consecutive parts that fit the pieces one by one. -/
inductive IsCut : Shape → List Char → List (List Char) → Prop where
  | done : IsCut [] [] []
  | part {p : Piece} {shape : Shape} {head rest : List Char} {parts : List (List Char)} :
      p.Fits head → IsCut shape rest parts → IsCut (p :: shape) (head ++ rest) (head :: parts)

/-! ## Written form -/

/-- The characters with a meaning of their own in a regular expression. -/
def expressionSpecials : List Char :=
  ['\\', '.', '+', '*', '?', '(', ')', '|', '[', ']', '\x7b', '\x7d', '^', '$', '#', '&', '-', '~']

/-- A text as a regular expression for itself. -/
def escapeExpression (text : List Char) : List Char :=
  text.flatMap fun c => if expressionSpecials.contains c then ['\\', c] else [c]

/-- The class of a run as a regular expression. -/
def RunKind.expression : RunKind → String
  | .anyInLine => "."
  | .solid => "\\S"
  | .digit => "\\d"
  | .gap => "[ \\t]"

/-- A piece as a regular expression. -/
def Piece.expression : Piece → String
  | .literal text => String.ofList (escapeExpression text)
  | .run kind nonempty reach =>
    kind.expression ++ (if nonempty then "+" else "*") ++
      (match reach with | .shortest => "?" | .longest => "")

/-- A shape as a regular expression. -/
def Shape.expression (shape : Shape) : String :=
  String.join (shape.map Piece.expression)

end LogIntake
