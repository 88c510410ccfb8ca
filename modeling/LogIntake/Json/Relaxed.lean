import LogIntake.Json.Dialect
import LogIntake.Number.Figures

/-!
# Relaxed JSON

* `relaxed`: the dialect JSON5, with comments, names as keys, texts in single quotes, and more ways to
  write a number.
-/

namespace LogIntake.Json

open Document Text

namespace Relaxed

/-- A character that ends a line. -/
def isLineEnd (c : Char) : Bool :=
  c == '\n' || c == '\r' || c == '\u2028' || c == '\u2029'

/-- A blank of any kind. -/
def isSpace (c : Char) : Bool :=
  (isBlank c && c != '\u0085') || c == '\uFEFF'

/-- Where a reader of what stands between two parts is. -/
inductive Place where
  | outside
  | lineComment
  | blockComment
deriving DecidableEq

/-- The text after blanks, line ends and comments. -/
def skip? : Place → List Char → Option (List Char)
  | .blockComment, [] => none
  | _, [] => some []
  | .outside, '/' :: '/' :: rest => skip? .lineComment rest
  | .outside, '/' :: '*' :: rest => skip? .blockComment rest
  | .outside, c :: rest => if isSpace c then skip? .outside rest else some (c :: rest)
  | .lineComment, c :: rest => skip? (if isLineEnd c then .outside else .lineComment) rest
  | .blockComment, '*' :: '/' :: rest => skip? .outside rest
  | .blockComment, _ :: rest => skip? .blockComment rest

/-- The character that a character after a backslash stands for: another one, or itself. -/
def escape? : Char → Option Char
  | 'b' => some '\x08'
  | 't' => some '\t'
  | 'n' => some '\n'
  | 'v' => some '\x0b'
  | 'f' => some '\x0c'
  | 'r' => some '\r'
  | '0' => some '\x00'
  | c => if isAsciiDigit c || c = 'x' || c = 'u' then none else some c

/-- Reads up to the closing quote. The first argument bounds the number of characters. -/
def characters? (quote : Char) : Nat → Reader (List Char)
  | 0, _ => none
  | _, [] => none
  | count + 1, '\\' :: 'u' :: rest => do
    let (c, rest) ← hexCharacter? rest
    let (s, rest) ← characters? quote count rest
    return (c :: s, rest)
  | count + 1, '\\' :: 'x' :: a :: b :: rest => do
    let n ← numberIn? 16 [a, b]
    let (s, rest) ← characters? quote count rest
    return (Char.ofNat n :: s, rest)
  | count + 1, '\\' :: '\r' :: '\n' :: rest => characters? quote count rest
  | count + 1, '\\' :: c :: rest => do
    if isLineEnd c then characters? quote count rest
    else
      let c ← escape? c
      let (s, rest) ← characters? quote count rest
      return (c :: s, rest)
  | count + 1, c :: rest =>
    if c = quote then some ([], rest)
    else if c = '\n' || c = '\r' then none
    else (characters? quote count rest).map fun (s, rest) => (c :: s, rest)

/-- Reads a text between quotes of either kind. -/
def text? : Reader (List Char)
  | '"' :: s => characters? '"' (s.length + 1) s
  | '\'' :: s => characters? '\'' (s.length + 1) s
  | _ => none

/-- A character with which a name begins. -/
def isNameStart (c : Char) : Bool :=
  (isAlphabetic c && isAlphanumeric c) || c == '$' || c == '_'

/-- A character of a name. -/
def isNamePart (c : Char) : Bool :=
  isNameStart c || isWordChar c

/-- Reads a key: a text, or a name without quotes. -/
def key? : Reader (List Char)
  | [] => none
  | c :: rest =>
    if c = '"' || c = '\'' then text? (c :: rest)
    else if isNameStart c then
      let name := (c :: rest).takeWhile isNamePart
      some (name, (c :: rest).drop name.length)
    else none

/-- Reads a number in hexadecimal digits of 32 bits, behind `0x`. -/
def hexNumber? : Reader Value
  | '0' :: x :: s => do
    if x ≠ 'x' && x ≠ 'X' then none
    let digits := s.takeWhile fun c => (digitIn? 16 c).isSome
    let n ← numberIn? 16 digits
    if digits.isEmpty || Nat.pow 2 32 ≤ n then none
    return (.integer n, s.drop digits.length)
  | _ => none

/-- Reads a number in decimal digits. Before or behind the point there may be none. -/
def decimal? (negative : Bool) : Reader Value := fun s => do
  let (f, rest) ← Figures.read? s
  if f.isPadded then none
  if f.isWhole then return (.integer (← f.integer? negative), rest)
  else return (.real (← f.double? negative), rest)

/-- Reads a number: a decimal one, a hexadecimal one without a sign, infinity, or no number. -/
def number? : Reader Value := fun s =>
  let (negative, rest) := sign s
  if "Infinity".toList.isPrefixOf rest then some (.real (.infinite negative), rest.drop 8)
  else if "NaN".toList.isPrefixOf rest then some (.real .notANumber, rest.drop 3)
  else match hexNumber? s with
    | some read => some read
    | none => decimal? negative rest

end Relaxed

/-- JSON5. -/
def relaxed : Dialect where
  skip? := Relaxed.skip? .outside
  text? := Relaxed.text?
  key? := Relaxed.key?
  number? := Relaxed.number?
  allowsLastComma := true
  greatestDepth := none

end LogIntake.Json
