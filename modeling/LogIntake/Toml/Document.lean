import LogIntake.Toml.Draft
import LogIntake.Toml.Scalar

/-!
# Documents

* `value?`: reads a value of any kind.
* `parse?`: the table that a document describes, unless it breaks a rule.
-/

namespace LogIntake.Toml

open Document Text

/-- The text after blanks and tabs. -/
def skipGap (s : List Char) : List Char :=
  s.dropWhile isGap

/-- The text after blanks, line ends and comments. Comments hold no control characters. -/
def skipFiller (inComment : Bool) : List Char → Option (List Char)
  | [] => some []
  | '\r' :: '\n' :: rest => skipFiller false rest
  | c :: rest =>
    if c = '\n' then skipFiller false rest
    else if inComment then if isControl c then none else skipFiller true rest
    else if isGap c then skipFiller false rest
    else if c = '#' then skipFiller true rest
    else some (c :: rest)

/-- The text of the next line, where only blanks and a comment may stand before it. -/
def lineEnd? (inComment : Bool) : List Char → Option (List Char)
  | [] => some []
  | '\r' :: '\n' :: rest => some rest
  | c :: rest =>
    if c = '\n' then some rest
    else if inComment then if isControl c then none else lineEnd? true rest
    else if isGap c then lineEnd? false rest
    else if c = '#' then lineEnd? true rest
    else none

/-- A character of a key without quotes. -/
def isKeyChar (c : Char) : Bool :=
  isAsciiLetter c || isAsciiDigit c || c == '_' || c == '-'

/-- Reads one part of a key. -/
def keyPart? (s : List Char) : Option (String × List Char) :=
  let plain := s.takeWhile isKeyChar
  if plain.isEmpty then (quotedLine? s).map fun (key, rest) => (String.ofList key, rest)
  else some (String.ofList plain, s.drop plain.length)

/-- Reads a dotted key of at most so many parts. -/
def key? : Nat → List Char → Option (List String × List Char)
  | 0, _ => none
  | fuel + 1, s => do
    let (part, rest) ← keyPart? s
    match skipGap rest with
    | '.' :: more =>
      let (parts, rest) ← key? fuel (skipGap more)
      return (part :: parts, rest)
    | rest => return ([part], rest)

/-- How many arrays and tables may lie in each other, and how many parts a key may have. -/
def greatestDepth : Nat := 80

mutual

/-- Reads a value that holds others at most `depth` deep. The second argument bounds the number of
parts. -/
def value? (depth : Nat) : Nat → List Char → Option (Value × List Char)
  | 0, _ => none
  | fuel + 1, s =>
    match depth, s with
    | 0, '[' :: _ | 0, '\x7b' :: _ => none
    | depth + 1, '[' :: rest => do
      let (elements, rest) ← elements? depth fuel rest
      return (.array elements, rest)
    | depth + 1, '\x7b' :: rest => do
      let (entries, rest) ← inlineEntries? depth fuel [] rest
      return (.table (Draft.finishEntries entries), rest)
    | _, '"' :: _ | _, '\'' :: _ =>
      (quoted? s).map fun (text, rest) => (.text (String.ofList text), rest)
    | _, _ => scalar? s

/-- Reads the elements of an array and its closing bracket. -/
def elements? (depth : Nat) : Nat → List Char → Option (List Value × List Char)
  | 0, _ => none
  | fuel + 1, s => do
    let s ← skipFiller false s
    match s with
    | ']' :: rest => return ([], rest)
    | _ =>
      let (value, rest) ← value? depth fuel s
      match ← skipFiller false rest with
      | ']' :: rest => return ([value], rest)
      | ',' :: rest =>
        let (values, rest) ← elements? depth fuel rest
        return (value :: values, rest)
      | _ => none

/-- Reads the entries of a table between braces, and its closing brace. -/
def inlineEntries? (depth : Nat) : Nat → Entries → List Char → Option (Entries × List Char)
  | 0, _, _ => none
  | fuel + 1, entries, s => do
    let s ← skipFiller false s
    match s with
    | '\x7d' :: rest => return (entries, rest)
    | _ =>
      let (key, rest) ← key? greatestDepth s
      let rest ← expect? '=' rest
      let (value, rest) ← value? depth fuel (skipGap rest)
      let entries ← Draft.assign? value key entries
      match ← skipFiller false rest with
      | '\x7d' :: rest => return (entries, rest)
      | ',' :: rest => inlineEntries? depth fuel entries rest
      | _ => none

end

/-- Reads the lines of a document into the entries; `path` leads to the table that the lines belong
to. The first argument bounds the number of lines. -/
def lines? : Nat → List String → Entries → List Char → Option Entries
  | 0, _, _, _ => none
  | fuel + 1, path, entries, s => do
    let s ← skipFiller false s
    match s with
    | [] => return entries
    | '[' :: '[' :: rest =>
      let (key, rest) ← key? greatestDepth (skipGap rest)
      let rest ← expect? ']' rest
      let rest ← expect? ']' rest
      let rest ← lineEnd? false rest
      let entries ← Draft.openElement? key.dropLast (key.getLast?.getD "") entries
      lines? fuel key entries rest
    | '[' :: rest =>
      let (key, rest) ← key? greatestDepth (skipGap rest)
      let rest ← expect? ']' rest
      let rest ← lineEnd? false rest
      let entries ← Draft.openTable? key.dropLast (key.getLast?.getD "") entries
      lines? fuel key entries rest
    | _ =>
      let (key, rest) ← key? greatestDepth s
      let rest ← expect? '=' rest
      let (value, rest) ← value? greatestDepth (2 * rest.length + 2) (skipGap rest)
      let rest ← lineEnd? false rest
      let entries ← Draft.change? (Draft.assign? value key) path entries
      lines? fuel path entries rest

/-- The table that a document describes. A mark of the byte order at its start is passed over. -/
def parse? (document : String) : Option Table :=
  let s := match document.toList with
    | '\uFEFF' :: rest => rest
    | s => s
  (lines? (s.length + 2) [] [] s).map Draft.finishEntries

end LogIntake.Toml
