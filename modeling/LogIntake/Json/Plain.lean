import LogIntake.Json.Dialect
import LogIntake.Number.Figures

/-!
# Plain JSON

* `plain`: the dialect of JSON without any additions.
-/

namespace LogIntake.Json

open Document Text

namespace Plain

/-- The text after blanks and line ends. -/
def skip (s : List Char) : List Char :=
  s.dropWhile fun c => c == ' ' || c == '\t' || c == '\n' || c == '\r'

/-- The character that a letter after a backslash stands for. -/
def escape? : Char → Option Char
  | 'b' => some '\x08'
  | 't' => some '\t'
  | 'n' => some '\n'
  | 'f' => some '\x0c'
  | 'r' => some '\r'
  | '"' => some '"'
  | '\\' => some '\\'
  | '/' => some '/'
  | _ => none

/-- Reads up to the closing quote. The first argument bounds the number of characters. -/
def characters? : Nat → Reader (List Char)
  | 0, _ => none
  | _, [] => none
  | _, '"' :: rest => some ([], rest)
  | count + 1, '\\' :: 'u' :: rest => do
    let (c, rest) ← hexCharacter? rest
    let (s, rest) ← characters? count rest
    return (c :: s, rest)
  | count + 1, '\\' :: c :: rest => do
    let c ← escape? c
    let (s, rest) ← characters? count rest
    return (c :: s, rest)
  | count + 1, c :: rest => do
    if c.toNat < 32 then none
    let (s, rest) ← characters? count rest
    return (c :: s, rest)

/-- Reads a text between quotes. -/
def text? : Reader (List Char)
  | '"' :: s => characters? (s.length + 1) s
  | _ => none

/-- Reads a number, which has a digit on either side of its point and does not begin with a zero unless
it must. A whole number of 64 bits is exact; any other number is the nearest one of double precision,
and so is the opposite of zero. -/
def number? : Reader Value := fun s => do
  let (negative, s) := match s with
    | '-' :: rest => (true, rest)
    | s => (false, s)
  let (f, rest) ← Figures.read? s
  if f.whole.isEmpty || f.isPadded || f.fraction = some [] then none
  match f.integer? negative with
  | some n => return (if negative && n = 0 then .real (.zero true) else .integer n, rest)
  | none => return (.real (← f.double? negative), rest)

end Plain

/-- JSON without any additions. -/
def plain : Dialect where
  skip? s := some (Plain.skip s)
  text? := Plain.text?
  key? := Plain.text?
  number? := Plain.number?
  allowsLastComma := false
  greatestDepth := some 127

end LogIntake.Json
