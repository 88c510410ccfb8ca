import LogIntake.Shape.Cut
import LogIntake.Template.Token

/-!
# Templates

* `Template`: the tokens of a log line, and the shape its timestamps take.
* `Template.compile`: a template from its text, or the reason why it is refused.
* `Template.captures?`: the fields of a line that follows the template.
-/

namespace LogIntake

/-- A template whose text has been read. Without a shape for timestamps any text is one. -/
structure Template where
  text : String
  tokens : List Template.Token
  timestampShape : Option Shape
deriving Repr

/-- The captured text of each field, in the order of the template. -/
abbrev Captures := List (Field × String)

/-- The text captured for a field. -/
def Captures.get? (captures : Captures) (field : Field) : Option String :=
  captures.lookup field

namespace Template

/-- The field of a token. -/
def Token.field? : Token → Option Field
  | .field f => some f
  | _ => none

/-- The fields of a template, in its order. -/
def fields (template : Template) : List Field :=
  template.tokens.filterMap Token.field?

/-- The first field that has occurred before. -/
def firstRepeated : List Field → List Field → Option Field
  | _, [] => none
  | seen, f :: rest => if seen.contains f then some f else firstRepeated (f :: seen) rest

/-- The rules for the fields of a template: there is one, none occurs twice, and the message is the
last. -/
def checkFields (fields : List Field) : Except TemplateError Unit :=
  if fields.isEmpty then .error .noFields
  else
    match firstRepeated [] fields with
    | some f => .error (.duplicateField f)
    | none => if fields.dropLast.contains .message then .error .messageNotLast else .ok ()

/-- Reads a template; `timestampShape` is the shape of its timestamps. -/
def compile (text : String) (timestampShape : Option Shape) : Except TemplateError Template := do
  if Text.isAllBlank text.toList then throw .empty
  let tokens ← tokenize text.toList
  checkFields (tokens.filterMap Token.field?)
  return { text, tokens, timestampShape }

/-- The shape of what a field captures. -/
def fieldShape (timestampShape : Option Shape) : Field → Shape
  | .message => [.run .anyInLine false .longest]
  | .thread | .ndc | .method | .prop _ => [.run .anyInLine false .shortest]
  | .timestamp => timestampShape.getD [.run .anyInLine false .shortest]
  | .relativeTime => [.run .digit true .longest]
  | .logger | .level | .className | .file | .line => [.run .solid false .shortest]

/-- The shape of a token. -/
def Token.shape (timestampShape : Option Shape) : Token → Shape
  | .field f => fieldShape timestampShape f
  | .wildcard => [.run .anyInLine false .shortest]
  | .gap => [.run .gap true .longest]
  | .literal text => [.literal text]

/-- The shape of a whole line. -/
def shape (template : Template) : Shape :=
  template.tokens.flatMap (Token.shape template.timestampShape)

/-- Hands the parts of a cut back to the tokens whose shapes they fit, and keeps those of fields. -/
def captureParts (timestampShape : Option Shape) : List Token → List (List Char) → Captures
  | [], _ => []
  | token :: tokens, parts =>
    let count := (token.shape timestampShape).length
    let later := captureParts timestampShape tokens (parts.drop count)
    match token.field? with
    | some f => (f, String.ofList (parts.take count).flatten) :: later
    | none => later

/-- The fields of a line that follows the template, from the preferred cut. -/
def captures? (template : Template) (line : String) : Option Captures :=
  (template.shape.cut? line.toList).map (captureParts template.timestampShape template.tokens)

end Template

end LogIntake
