import LogIntake.Template.Field
import LogIntake.Text.Trim

/-!
# Tokens of a template

* `Token`: a field, a wildcard, a gap or a fixed text.
* `TemplateError`: why a template is refused.
* `lexemes`: a template read into its smallest parts.
* `tokenize`: the parts put together into tokens.
* `Token.render`: the written form of a token.
-/

namespace LogIntake

/-- Why a template is refused. A template whose regular expression the library of expressions refuses for
its size is left out. -/
inductive TemplateError where
  | empty
  | noFields
  | messageNotLast
  | duplicateField (field : Field)
  | unterminatedProperty
  | emptyPropertyKey
deriving DecidableEq, Repr

/-- The wording of a refusal. -/
def TemplateError.message : TemplateError → String
  | .empty => "log format template is empty"
  | .noFields => "log format template contains no fields"
  | .messageNotLast => "MESSAGE must be the last field in the template"
  | .duplicateField field => "field " ++ field.name ++ " appears more than once"
  | .unterminatedProperty => "unterminated PROP( in template"
  | .emptyPropertyKey => "PROP() needs a key"

namespace Template

/-- A part of a template. -/
inductive Token where
  | field (f : Field)
  | wildcard
  | gap
  | literal (text : List Char)
deriving DecidableEq, Repr

/-- The written form of a token; a gap of any length is written as one blank. -/
def Token.render : Token → List Char
  | .field f => f.name.toList
  | .wildcard => ['*']
  | .gap => [' ']
  | .literal text => text

/-- The written form of a list of tokens. -/
def render (tokens : List Token) : List Char :=
  tokens.flatMap Token.render

/-! ## Reading -/

/-- A character that can belong to a name. A keyword next to one is not a field. -/
def isNameChar (c : Char) : Bool :=
  Text.isAlphanumeric c || c == '_'

/-- The smallest parts of a template: tokens before blanks and characters are put together. -/
inductive Lexeme where
  | field (f : Field)
  | wildcard
  | blank
  | char (c : Char)
deriving DecidableEq, Repr

/-- How a property field begins. -/
def propertyOpening : List Char := "PROP(".toList

/-- The keyword at the front of a text, provided that the character after it belongs to no name. -/
def keywordAt? (s : List Char) : Option Field :=
  Field.keywords.find? fun f =>
    f.name.toList.isPrefixOf s &&
      !((s.drop f.name.toList.length).head?.any isNameChar)

/-- Reads a property key and its closing parenthesis: the field, and the number of characters read.
-/
def propertyAt (s : List Char) : Except TemplateError (Field × Nat) :=
  let before := s.takeWhile (· != ')')
  if before.length = s.length then .error .unterminatedProperty
  else
    let key := Text.trim before
    if key.isEmpty then .error .emptyPropertyKey
    else .ok (.prop (String.ofList key), before.length + 1)

/-- Reads what begins at the character `c` with the text `rest` after it, where `prev` is the
character before: the lexeme, and how many characters of `rest` belong to it. -/
def lexemeAt (prev : Option Char) (c : Char) (rest : List Char) :
    Except TemplateError (Lexeme × Nat) :=
  let fresh := !prev.any isNameChar
  if fresh && propertyOpening.isPrefixOf (c :: rest) then
    (propertyAt (rest.drop (propertyOpening.length - 1))).map fun (f, n) =>
      (.field f, propertyOpening.length - 1 + n)
  else
    match (if fresh then keywordAt? (c :: rest) else none) with
    | some f => .ok (.field f, f.name.toList.length - 1)
    | none =>
      if c = '*' then .ok (.wildcard, 0)
      else if Text.isGap c then .ok (.blank, 0)
      else .ok (.char c, 0)

/-- The lexemes of a text after `prev`, once the next `skip` characters, which belong to a lexeme
already read, have gone by. -/
def lexemesFrom (prev : Option Char) : Nat → List Char → Except TemplateError (List Lexeme)
  | _, [] => .ok []
  | skip + 1, c :: rest => lexemesFrom (some c) skip rest
  | 0, c :: rest => do
    let (lexeme, more) ← lexemeAt prev c rest
    let later ← lexemesFrom (some c) more rest
    return lexeme :: later

/-- The lexemes of a template. -/
def lexemes (template : List Char) : Except TemplateError (List Lexeme) :=
  lexemesFrom none 0 template

/-- Puts a lexeme in front of tokens: a character joins a fixed text, a blank joins a gap. -/
def Lexeme.cons : Lexeme → List Token → List Token
  | .field f, tokens => .field f :: tokens
  | .wildcard, tokens => .wildcard :: tokens
  | .blank, .gap :: tokens => .gap :: tokens
  | .blank, tokens => .gap :: tokens
  | .char c, .literal text :: tokens => .literal (c :: text) :: tokens
  | .char c, tokens => .literal [c] :: tokens

/-- The tokens of a template. -/
def tokenize (template : List Char) : Except TemplateError (List Token) :=
  (lexemes template).map (·.foldr Lexeme.cons [])

end Template

end LogIntake
