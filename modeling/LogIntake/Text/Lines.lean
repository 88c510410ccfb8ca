/-!
# Lines of a text

* `split`: the pieces between the occurrences of a separator, at least one.
* `join`: pieces put together with a separator between them.
* `lines`: the lines of a text without their line ends, which are `\n` or `\r\n`.
* `hasInfix`: whether one text occurs inside another.
-/

namespace LogIntake.Text

/-- The pieces of a text between the occurrences of `sep`; a text without it is one piece. -/
def split (sep : Char) : List Char → List (List Char)
  | [] => [[]]
  | c :: rest =>
    if c = sep then [] :: split sep rest
    else match split sep rest with
      | [] => [[c]]
      | piece :: pieces => (c :: piece) :: pieces

/-- The pieces with `sep` between each two of them. -/
def join (sep : List Char) : List (List Char) → List Char
  | [] => []
  | [piece] => piece
  | piece :: pieces => piece ++ sep ++ join sep pieces

/-- A line without one carriage return at its end. -/
def dropReturn (line : List Char) : List Char :=
  match line.getLast? with
  | some '\r' => line.dropLast
  | _ => line

/-- The lines of the pieces between line feeds: what follows the last line feed is a line only if it
holds something, and keeps a carriage return at its end. -/
def linesOfPieces : List (List Char) → List (List Char)
  | [] => []
  | [last] => if last.isEmpty then [] else [last]
  | piece :: pieces => dropReturn piece :: linesOfPieces pieces

/-- The lines of a text without their line ends. -/
def lines (s : List Char) : List (List Char) :=
  linesOfPieces (split '\n' s)

/-- Whether `part` occurs in the text as consecutive characters. -/
def hasInfix (part : List Char) : List Char → Bool
  | [] => part.isEmpty
  | c :: rest => part.isPrefixOf (c :: rest) || hasInfix part rest

/-! ## Small facts -/

/-- A text has at least one piece. -/
theorem split_ne_nil (sep : Char) (s : List Char) : split sep s ≠ [] := by
  cases s with
  | nil => simp [split]
  | cons c rest =>
    unfold split
    split
    · simp
    · split <;> simp

example : lines "a\r\n\nb\r".toList = ["a".toList, [], "b\r".toList] := by decide

end LogIntake.Text
