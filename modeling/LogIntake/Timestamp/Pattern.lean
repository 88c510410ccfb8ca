import LogIntake.Shape.Basic

/-!
# Timestamp patterns

* `Token`: a run of one letter, or a fixed text.
* `PatternError`: why a pattern is refused.
* `tokenize`: the tokens of a pattern such as `yyyy-MM-dd'T'HH:mm`, where quotes enclose fixed text.
* `Token.render`: the written form of a token.
* `Token.shape`: what texts a token stands for inside a line.
-/

namespace LogIntake

/-- Why a timestamp pattern is refused. -/
inductive PatternError where
  | empty
  | unterminatedQuote
  | unsupportedLetter (letter : Char)
deriving DecidableEq, Repr

/-- The wording of a refusal. -/
def PatternError.message : PatternError → String
  | .empty => "timestamp pattern is empty"
  | .unterminatedQuote => "unterminated quote in timestamp pattern"
  | .unsupportedLetter letter =>
    "unsupported timestamp pattern letter '" ++ letter.toString ++ "'"

namespace Timestamp

/-- A part of a timestamp pattern. -/
inductive Token where
  | letters (letter : Char) (count : Nat)
  | literal (text : List Char)
deriving DecidableEq, Repr

/-! ## Reading -/

/-- The smallest parts of a pattern: a letter that stands for a part of a date-time, or a character
that stands for itself. -/
inductive Lexeme where
  | letter (c : Char)
  | char (c : Char)
deriving DecidableEq, Repr

/-- The lexemes of a pattern from inside or outside quotes on. Two quotes in a row stand for one
quote everywhere; a single one begins or ends quoted text. -/
def lexemesFrom (quoted : Bool) : List Char → Except PatternError (List Lexeme)
  | [] => if quoted then .error .unterminatedQuote else .ok []
  | '\'' :: '\'' :: rest => (lexemesFrom quoted rest).map (.char '\'' :: ·)
  | '\'' :: rest => lexemesFrom (!quoted) rest
  | c :: rest =>
    let lexeme := if !quoted && Text.isAsciiLetter c then .letter c else .char c
    (lexemesFrom quoted rest).map (lexeme :: ·)

/-- Puts a lexeme in front of tokens: a letter joins a run of itself, a character a fixed text. -/
def Lexeme.cons : Lexeme → List Token → List Token
  | .letter c, .letters d count :: tokens =>
    if c = d then .letters c (count + 1) :: tokens else .letters c 1 :: .letters d count :: tokens
  | .letter c, tokens => .letters c 1 :: tokens
  | .char c, .literal text :: tokens => .literal (c :: text) :: tokens
  | .char c, tokens => .literal [c] :: tokens

/-- The tokens of a pattern. -/
def tokenize (pattern : List Char) : Except PatternError (List Token) :=
  (lexemesFrom false pattern).map (·.foldr Lexeme.cons [])

/-! ## Writing -/

/-- A text with every quote doubled. -/
def doubleQuotes (text : List Char) : List Char :=
  text.flatMap fun c => if c = '\'' then ['\'', '\''] else [c]

/-- The written form of a fixed text: if it has letters, the stretch from the first to the last of
them stands in quotes. -/
def quoteLetters (text : List Char) : List Char :=
  let front := text.takeWhile fun c => !Text.isAsciiLetter c
  let rest := text.dropWhile fun c => !Text.isAsciiLetter c
  let back := (rest.reverse.takeWhile fun c => !Text.isAsciiLetter c).reverse
  let middle := (rest.reverse.dropWhile fun c => !Text.isAsciiLetter c).reverse
  if middle.isEmpty then doubleQuotes text
  else doubleQuotes front ++ '\'' :: doubleQuotes middle ++ '\'' :: doubleQuotes back

/-- The written form of a token. -/
def Token.render : Token → List Char
  | .letters letter count => List.replicate count letter
  | .literal text => quoteLetters text

/-- The written form of a pattern. -/
def render (tokens : List Token) : List Char :=
  tokens.flatMap Token.render

/-! ## Shape -/

/-- Puts a character of a fixed text in front of a shape, where a gap of any length stands for the
blanks and tabs in a row. -/
def consShape (c : Char) : Shape → Shape
  | .literal text :: shape =>
    if Text.isGap c then .run .gap true .longest :: .literal text :: shape
    else .literal (c :: text) :: shape
  | .run kind nonempty reach :: shape =>
    if Text.isGap c then .run kind nonempty reach :: shape
    else .literal [c] :: .run kind nonempty reach :: shape
  | [] => if Text.isGap c then [.run .gap true .longest] else [.literal [c]]

/-- What texts a token stands for inside a line: a run of letters stands for anything without white
space. -/
def Token.shape : Token → Shape
  | .letters _ _ => [.run .solid true .longest]
  | .literal text => text.foldr consShape []

end Timestamp

end LogIntake
