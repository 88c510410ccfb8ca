import LogIntake.Document.Value
import LogIntake.Text.Digits
import LogIntake.Text.Trim

/-!
# Documents in sections

The format INI: lines `key = value` under headers `[section]`. All values are texts.

* `span?`: reads up to a character, with escapes.
* `value?`: reads a value, parts of which can stand in quotes.
* `parse?`: the table that a document describes, unless it breaks a rule.
-/

namespace LogIntake.Ini

open Document Text

/-- The character that a character after a backslash stands for: another one, or itself. -/
def escape : Char → Char
  | '0' => '\x00'
  | 'a' => '\x07'
  | 'b' => '\x08'
  | 't' => '\t'
  | 'n' => '\n'
  | 'r' => '\r'
  | c => c

/-- Puts a character in front of a text that has been read. -/
def prepend (c : Char) (read : Option (List Char × List Char)) : Option (List Char × List Char) :=
  read.map fun (s, rest) => (c :: s, rest)

/-- Reads up to one of the characters `stops`, of which one must come unless `endStops`. A backslash
before the end of a line joins it to the next one. -/
def span? (stops : List Char) (endStops : Bool) : List Char → Option (List Char × List Char)
  | [] => if endStops then some ([], []) else none
  | ['\\'] => none
  | '\\' :: '\n' :: rest => span? stops endStops rest
  | '\\' :: 'x' :: a :: b :: c :: d :: rest =>
    (numberIn? 16 [a, b, c, d]).bind fun n =>
      if n.isValidChar then prepend (Char.ofNat n) (span? stops endStops rest) else none
  | '\\' :: c :: rest => if c = 'x' then none else prepend (escape c) (span? stops endStops rest)
  | c :: rest =>
    if stops.contains c then some ([], c :: rest) else prepend c (span? stops endStops rest)

/-- Reads the rest of a line as a value. Parts of it may stand in quotes at its start; `first` tells
whether there was none yet. The first argument bounds the number of parts. -/
def value? : Nat → Bool → List Char → Option (List Char × List Char)
  | 0, _, _ => none
  | fuel + 1, first, s => do
    match s with
    | '"' :: rest | '\'' :: rest =>
      let (quoted, rest) ← span? (s.take 1) false rest
      let (more, rest) ← value? fuel false (rest.drop 1)
      return (quoted ++ more, rest)
    | s =>
      let (line, rest) ← span? ['\n', '\r'] true s
      return (if first then trim line else trimEnd line, rest)

/-- The text after blanks and line ends, and whether it stands at the start of a line. -/
def skipSpace : Bool → List Char → Bool × List Char
  | atStart, [] => (atStart, [])
  | atStart, c :: rest => if isBlank c then skipSpace (c = '\n') rest else (atStart, c :: rest)

/-- A section: its name, unless its entries stand in no section, and its entries. -/
abbrev Section := Option String × Table

/-- Adds an entry to the last section, given first. -/
def addEntry (key value : List Char) : List Section → List Section
  | [] => [(none, [(String.ofList key, .text (String.ofList value))])]
  | (name, entries) :: earlier =>
    (name, Table.set (String.ofList key) (.text (String.ofList value)) entries) :: earlier

/-- Reads headers, entries and comments, and adds them to the sections, of which the last one is given
first. A comment starts a line. The first argument bounds the number of lines. -/
def sections? : Nat → Bool → List Section → List Char → Option (List Section)
  | 0, _, _, _ => none
  | fuel + 1, atStart, sections, s => do
    let (atStart, s) := skipSpace atStart s
    match s with
    | [] => return sections
    | '[' :: rest =>
      let (name, rest) ← span? [']'] false rest
      sections? fuel false ((some (String.ofList (trim name)), []) :: sections) (rest.drop 1)
    | c :: rest =>
      if c = ';' || c = '#' then
        if atStart then sections? fuel true sections ((rest.dropWhile (· ≠ '\n')).drop 1) else none
      else
        let (key, rest) ← span? ['=', ':'] false s
        if (trim key).isEmpty then none
        let rest := (rest.drop 1).dropWhile fun c => isBlank c && c ≠ '\n' && c ≠ '\r'
        let (value, rest) ← value? (rest.length + 1) true rest
        sections? fuel false (addEntry (trim key) value sections) rest

/-- The table with the entries of a section, which take the place of an earlier section of its name. -/
def addSection (table : Table) : Section → Table
  | (some name, entries) => Table.set name (.table entries) table
  | (none, entries) => entries.foldl (fun table (key, value) => Table.set key value table) table

/-- The table that a document describes. -/
def parse? (document : String) : Option Table :=
  (sections? (document.length + 1) true [] document.toList).map fun sections =>
    sections.reverse.foldl addSection []

end LogIntake.Ini
