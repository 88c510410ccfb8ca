import LogIntake.Document.Value
import LogIntake.Text.Digits

/-!
# Dialects of JSON

A reader takes a text and gives back what it has read with the rest of the text.

* `Dialect`: how texts, keys and numbers are written, and what may stand between them.
* `Dialect.value?`: reads a value of any kind.
* `Dialect.parse?`: the table that a document describes, unless it breaks a rule.
-/

namespace LogIntake.Json

open Document Text

/-- Reads something from the front of a text. -/
abbrev Reader (α : Type) := List Char → Option (α × List Char)

/-- What the dialects of JSON do not share. -/
structure Dialect where
  /-- The text after what may stand between two parts. -/
  skip? : List Char → Option (List Char)
  text? : Reader (List Char)
  key? : Reader (List Char)
  number? : Reader Value
  /-- Whether a comma may stand behind the last part. -/
  allowsLastComma : Bool
  /-- How many arrays and tables may lie in each other, if that is bounded. -/
  greatestDepth : Option Nat

/-! ## Shared parts -/

/-- The character that two halves of sixteen bits stand for. -/
def joinHalves? (high low : Nat) : Option Char :=
  if 0xD800 ≤ high && high < 0xDC00 && 0xDC00 ≤ low && low < 0xE000 then
    some (Char.ofNat (0x10000 + (high - 0xD800) * 0x400 + (low - 0xDC00)))
  else none

/-- Reads a character from four hexadecimal digits. One outside the first plane is written as two
halves, of which the second follows behind `\u`. -/
def hexCharacter? : Reader Char
  | a :: b :: c :: d :: rest => do
    let n ← numberIn? 16 [a, b, c, d]
    if n.isValidChar then return (Char.ofNat n, rest)
    match rest with
    | '\\' :: 'u' :: e :: f :: g :: h :: rest =>
      return (← joinHalves? n (← numberIn? 16 [e, f, g, h]), rest)
    | _ => none
  | _ => none

/-- Reads a word that must come next. -/
def word? (word : String) (value : Value) : Reader Value := fun s =>
  if word.toList.isPrefixOf s then some (value, s.drop word.length) else none

namespace Dialect

variable (d : Dialect)

/-! ## Values -/

mutual

/-- Reads a value that holds others at most `depth` deep. The second argument bounds the number of
parts. -/
def value? (depth : Nat) : Nat → Reader Value
  | 0, _ => none
  | fuel + 1, s =>
    match depth, s with
    | 0, '[' :: _ | 0, '\x7b' :: _ => none
    | depth + 1, '[' :: rest => do
      match ← d.skip? rest with
      | ']' :: rest => return (.array [], rest)
      | rest =>
        let (elements, rest) ← elements? depth fuel rest
        return (.array elements, rest)
    | depth + 1, '\x7b' :: rest => do
      match ← d.skip? rest with
      | '\x7d' :: rest => return (.table [], rest)
      | rest =>
        let (entries, rest) ← entries? depth fuel [] rest
        return (.table entries, rest)
    | _, 't' :: _ => word? "true" (.boolean true) s
    | _, 'f' :: _ => word? "false" (.boolean false) s
    | _, 'n' :: _ => word? "null" .absent s
    | _, '"' :: _ | _, '\'' :: _ => (d.text? s).map fun (s, rest) => (.text (String.ofList s), rest)
    | _, _ => d.number? s

/-- Reads the elements of an array, of which there is at least one, and its closing bracket. -/
def elements? (depth : Nat) : Nat → Reader (List Value)
  | 0, _ => none
  | fuel + 1, s => do
    let (value, rest) ← value? depth fuel s
    match ← d.skip? rest with
    | ']' :: rest => return ([value], rest)
    | ',' :: rest =>
      match d.allowsLastComma, ← d.skip? rest with
      | true, ']' :: rest => return ([value], rest)
      | _, rest =>
        let (values, rest) ← elements? depth fuel rest
        return (value :: values, rest)
    | _ => none

/-- Reads the entries of a table, of which there is at least one, and its closing brace. Of several
entries under a key the last one counts. -/
def entries? (depth : Nat) : Nat → Table → Reader Table
  | 0, _, _ => none
  | fuel + 1, entries, s => do
    let (key, rest) ← d.key? s
    match ← d.skip? rest with
    | ':' :: rest =>
      let (value, rest) ← value? depth fuel (← d.skip? rest)
      let entries := Table.set (String.ofList key) value entries
      match ← d.skip? rest with
      | '\x7d' :: rest => return (entries, rest)
      | ',' :: rest =>
        match d.allowsLastComma, ← d.skip? rest with
        | true, '\x7d' :: rest => return (entries, rest)
        | _, rest => entries? depth fuel entries rest
      | _ => none
    | _ => none

end

/-- The table that a document describes. -/
def parse? (document : String) : Option Table := do
  let fuel := document.length + 1
  let (value, rest) ← d.value? (d.greatestDepth.getD fuel) fuel (← d.skip? document.toList)
  match value, ← d.skip? rest with
  | .table entries, [] => return entries
  | _, _ => none

end Dialect

end LogIntake.Json
