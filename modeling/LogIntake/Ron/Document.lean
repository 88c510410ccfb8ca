import LogIntake.Document.Value
import LogIntake.Number.Figures

/-!
# Documents in object notation

The format RON: tables with named fields in parentheses, or with any keys in braces. A reader takes the
text and gives back what it has read with the rest of the text.

* `text?`, `number?`: texts and numbers.
* `value?`: a value of any kind.
* `parse?`: the table that a document describes, unless it breaks a rule.
-/

namespace LogIntake.Ron

open Document Text

/-! ## Between the parts -/

/-- A blank of any kind. -/
def isSpace (c : Char) : Bool :=
  [' ', '\t', '\n', '\r', '\x0b', '\x0c', '\u0085', '\u200e', '\u200f', '\u2028', '\u2029'].contains c

/-- The text after blanks and comments. A comment goes to the end of its line, or from one mark to
another; of the latter `depth` lie in each other. -/
def skip? (inLine : Bool) (depth : Nat) : List Char → Option (List Char)
  | [] => if depth = 0 then some [] else none
  | '/' :: '*' :: rest => skip? inLine (if inLine then depth else depth + 1) rest
  | '*' :: '/' :: rest =>
    if inLine then skip? inLine depth rest
    else if depth = 0 then some ('*' :: '/' :: rest)
    else skip? false (depth - 1) rest
  | c :: rest =>
    if inLine then skip? (c ≠ '\n') depth rest
    else if 0 < depth || isSpace c then skip? false depth rest
    else if c = '/' && rest.head? = some '/' then skip? true depth rest
    else some (c :: rest)

/-- The text after blanks and comments. -/
def skipSpace? (s : List Char) : Option (List Char) :=
  skip? false 0 s

/-! ## Texts -/

/-- Reads what follows a backslash. -/
def escape? : List Char → Option (Char × List Char)
  | 'n' :: rest => some ('\n', rest)
  | 'r' :: rest => some ('\r', rest)
  | 't' :: rest => some ('\t', rest)
  | '0' :: rest => some ('\x00', rest)
  | '\\' :: rest => some ('\\', rest)
  | '"' :: rest => some ('"', rest)
  | '\'' :: rest => some ('\'', rest)
  | 'x' :: a :: b :: rest => (numberIn? 16 [a, b]).map fun n => (Char.ofNat n, rest)
  | 'u' :: '\x7b' :: rest => do
    let digits := rest.takeWhile (· ≠ '\x7d')
    let n ← numberIn? 16 digits
    if digits.isEmpty || 6 < digits.length || !n.isValidChar then none
    return (Char.ofNat n, (rest.drop digits.length).drop 1)
  | _ => none

/-- Reads up to the closing quote. The first argument bounds the number of characters. -/
def characters? : Nat → List Char → Option (List Char × List Char)
  | 0, _ => none
  | _, [] => none
  | _, '"' :: rest => some ([], rest)
  | count + 1, '\\' :: rest => do
    let (c, rest) ← escape? rest
    let (s, rest) ← characters? count rest
    return (c :: s, rest)
  | count + 1, c :: rest => (characters? count rest).map fun (s, rest) => (c :: s, rest)

/-- Reads up to a quote with some marks behind it. -/
def rawCharacters? (closing : List Char) : List Char → Option (List Char × List Char)
  | [] => none
  | c :: rest =>
    if closing.isPrefixOf (c :: rest) then some ([], (c :: rest).drop closing.length)
    else (rawCharacters? closing rest).map fun (s, rest) => (c :: s, rest)

/-- Reads a text in quotes. One without escapes has marks around its quotes. -/
def text? : List Char → Option (List Char × List Char)
  | '"' :: s => characters? (s.length + 1) s
  | 'r' :: s =>
    let marks := s.takeWhile (· == '#')
    match s.drop marks.length with
    | '"' :: rest => rawCharacters? ('"' :: marks) rest
    | _ => none
  | '\'' :: '\\' :: rest => do
    match ← escape? rest with
    | (c, '\'' :: rest) => return ([c], rest)
    | _ => none
  | '\'' :: c :: '\'' :: rest => some ([c], rest)
  | _ => none

/-! ## Numbers and names -/

/-- A character of a name. -/
def isNamePart (c : Char) : Bool :=
  isAsciiLetter c || isAsciiDigit c || c == '_'

/-- A character of a number. -/
def isNumberPart (c : Char) : Bool :=
  isNamePart c || c == '.' || c == '+' || c == '-'

/-- Reads a number, in which underscores count for nothing. A whole number has 64 bits. -/
def number? (s : List Char) : Option (Value × List Char) := do
  let word := s.takeWhile isNumberPart
  let rest := s.drop word.length
  let (negative, figures) := sign (word.filter (· ≠ '_'))
  let whole (base : Nat) (digits : List Char) : Option Value := do
    let n ← numberIn? base digits
    let n : Int := if negative then -(n : Int) else n
    if !digits.isEmpty && fits64 n then some (.integer n) else none
  let value : Value ← match figures with
    | '0' :: 'x' :: digits => whole 16 digits
    | '0' :: 'o' :: digits => whole 8 digits
    | '0' :: 'b' :: digits => whole 2 digits
    | ['i', 'n', 'f'] => some (.real (.infinite negative))
    | ['N', 'a', 'N'] => some (.real .notANumber)
    | figures =>
      match Figures.read? figures with
      | some (f, []) =>
        if f.isWhole then (f.integer? negative).map .integer
        else some (.real ((f.double? negative).getD (.infinite negative)))
      | _ => none
  return (value, rest)

/-- Reads a name, which does not begin with a digit. -/
def name? (s : List Char) : Option (List Char × List Char) :=
  let name := s.takeWhile isNamePart
  if name.isEmpty || name.head?.any isAsciiDigit then none else some (name, s.drop name.length)

/-- Reads the name of a field and the colon behind it. -/
def field? (s : List Char) : Option (String × List Char) := do
  let (name, rest) ← name? s
  match ← skipSpace? rest with
  | ':' :: rest => return (String.ofList name, rest)
  | _ => none

/-! ## Values -/

/-- How many values may lie in each other. -/
def greatestDepth : Nat := 128

mutual

/-- Reads a value that holds others at most `depth` deep. The second argument bounds the number of
parts. -/
def value? (depth : Nat) : Nat → List Char → Option (Value × List Char)
  | 0, _ => none
  | fuel + 1, s =>
    match depth, s with
    | 0, _ => none
    | depth + 1, '[' :: rest => do
      let (elements, rest) ← elements? depth ']' fuel (← skipSpace? rest)
      return (.array elements, rest)
    | depth + 1, '\x7b' :: rest => do
      let (entries, rest) ← entries? depth fuel [] (← skipSpace? rest)
      return (.table entries, rest)
    | depth + 1, '(' :: rest => do
      let rest ← skipSpace? rest
      if rest.head? = some ')' then return (.absent, rest.drop 1)
      if (field? rest).isSome then
        let (entries, rest) ← fields? depth fuel [] rest
        return (.table entries, rest)
      else
        let (elements, rest) ← elements? depth ')' fuel rest
        return (.array elements, rest)
    | depth + 1, s => do
      match text? s with
      | some (text, rest) => return (.text (String.ofList text), rest)
      | none =>
        match number? s with
        | some read => return read
        | none =>
          let (name, rest) ← name? s
          let next ← skipSpace? rest
          if name = "true".toList then return (.boolean true, rest)
          if name = "false".toList then return (.boolean false, rest)
          if next.head? ≠ some '(' then return (.absent, rest)
          let (value, rest) ← value? depth fuel next
          match value with
          | .array [inner] => return (if name = "Some".toList then inner else value, rest)
          | _ => return (value, rest)

/-- Reads values up to a closing character. -/
def elements? (depth : Nat) (closing : Char) : Nat → List Char → Option (List Value × List Char)
  | 0, _ => none
  | fuel + 1, s => do
    if s.head? = some closing then return ([], s.drop 1)
    let (value, rest) ← value? depth fuel s
    match ← skipSpace? rest with
    | ',' :: rest =>
      let (values, rest) ← elements? depth closing fuel (← skipSpace? rest)
      return (value :: values, rest)
    | rest => if rest.head? = some closing then return ([value], rest.drop 1) else none

/-- Reads the entries of a table in braces, whose keys are texts. Of several entries under a key the
last one counts. -/
def entries? (depth : Nat) : Nat → Table → List Char → Option (Table × List Char)
  | 0, _, _ => none
  | fuel + 1, entries, s => do
    if s.head? = some '\x7d' then return (entries, s.drop 1)
    let (key, rest) ← text? s
    match ← skipSpace? rest with
    | ':' :: rest =>
      let (value, rest) ← value? depth fuel (← skipSpace? rest)
      let entries := Table.set (String.ofList key) value entries
      match ← skipSpace? rest with
      | ',' :: rest => entries? depth fuel entries (← skipSpace? rest)
      | '\x7d' :: rest => return (entries, rest)
      | _ => none
    | _ => none

/-- Reads the fields of a table in parentheses. Of several fields of a name the last one counts. -/
def fields? (depth : Nat) : Nat → Table → List Char → Option (Table × List Char)
  | 0, _, _ => none
  | fuel + 1, entries, s => do
    if s.head? = some ')' then return (entries, s.drop 1)
    let (key, rest) ← field? s
    let (value, rest) ← value? depth fuel (← skipSpace? rest)
    let entries := Table.set key value entries
    match ← skipSpace? rest with
    | ',' :: rest => fields? depth fuel entries (← skipSpace? rest)
    | ')' :: rest => return (entries, rest)
    | _ => none

end

/-- The table that a document describes. -/
def parse? (document : String) : Option Table := do
  let (value, rest) ← value? greatestDepth (2 * document.length + 2) (← skipSpace? document.toList)
  match value, ← skipSpace? rest with
  | .table entries, [] => return entries
  | _, _ => none

end LogIntake.Ron
