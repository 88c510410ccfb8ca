import LogIntake.Text.Lines
import LogIntake.Yaml.Scalar

/-!
# Documents in YAML

Lists and tables are told by how far their lines are set in, or by brackets. Names for values, and
tags, are not read.

* `Cursor`: a place in a text.
* `node?`: reads a value of any kind.
* `parse?`: the table that a document describes, unless it breaks a rule.
-/

namespace LogIntake.Yaml

open Document Text

/-- A place in a text: its column, whether only blanks stand before it on its line, and the text from
there on. -/
structure Cursor where
  column : Nat
  startsLine : Bool
  rest : List Char

namespace Cursor

/-- Reads on by some characters on the same line. -/
def drop (count : Nat) (c : Cursor) : Cursor :=
  ⟨c.column + count, false, c.rest.drop count⟩

/-- The place at which a given rest of the text begins. -/
def advance (rest : List Char) (c : Cursor) : Cursor :=
  c.drop (c.rest.length - rest.length)

/-- The place after blanks, line ends and comments. A comment begins a line or follows a blank. The end
of the text counts as the start of a line. -/
def skipFrom (afterGap inComment startsLine : Bool) : Nat → List Char → Cursor
  | _, [] => ⟨0, true, []⟩
  | column, c :: rest =>
    if c = '\n' then skipFrom true false true 0 rest
    else if inComment then skipFrom true true startsLine (column + 1) rest
    else if isGap c then skipFrom true false startsLine (column + 1) rest
    else if c = '#' && afterGap then skipFrom true true startsLine (column + 1) rest
    else ⟨column, startsLine, c :: rest⟩

/-- Passes over blanks, line ends and comments. -/
def skip (c : Cursor) : Cursor :=
  skipFrom c.startsLine false c.startsLine c.column c.rest

end Cursor

/-- The text of a key, given as a value. -/
def keyText? (s : List Char) : Option String :=
  match resolve? s with
  | some .absent | none => none
  | some (.integer n) => some (toString n)
  | some _ => some (String.ofList s)

/-- Reads a key up to the text behind its colon. -/
def key? (inBrackets : Bool) (c : Cursor) : Option (String × Cursor) :=
  match c.rest with
  | '"' :: _ | '\'' :: _ => do
    let (s, rest) ← quoted? c.rest
    match rest.dropWhile isGap with
    | ':' :: rest => if inBrackets || startsGap rest then some (String.ofList s, c.advance rest) else none
    | _ => none
  | _ =>
    if !startsPlain inBrackets c.rest then none
    else
      match plainLine inBrackets c.rest with
      | (s, ':' :: rest) => (keyText? (trimGap s)).map fun key => (key, c.advance rest)
      | _ => none

/-- Whether an element of a list begins here. -/
def startsElement : List Char → Bool
  | '-' :: rest => startsGap rest
  | _ => false

/-- Adds an entry, whose key must be new. -/
def insert? (key : String) (value : Value) (entries : Table) : Option Table :=
  if (entries.lookup key).isSome then none else some (entries ++ [(key, value)])

mutual

/-- Reads a value in brackets, or a text without quotes or with them among such values. -/
def inner? : Nat → Cursor → Option (Value × Cursor)
  | 0, _ => none
  | fuel + 1, c =>
    match c.rest with
    | '[' :: _ => do
      let (elements, c) ← elements? fuel (c.drop 1).skip
      return (.array elements, c)
    | '\x7b' :: _ => do
      let (entries, c) ← entries? fuel [] (c.drop 1).skip
      return (.table entries, c)
    | '"' :: _ | '\'' :: _ => do
      let (s, rest) ← quoted? c.rest
      return (.text (String.ofList s), c.advance rest)
    | s => do
      if !startsPlain true s then none
      let (s, rest) ← plain? true 0 (s.length + 1) s
      return (← resolve? s, c.advance rest)

/-- Reads the elements of a list in brackets, and its closing bracket. -/
def elements? : Nat → Cursor → Option (List Value × Cursor)
  | 0, _ => none
  | fuel + 1, c => do
    if c.rest.head? = some ']' then return ([], c.drop 1)
    let (value, c) ← inner? fuel c
    let c := c.skip
    match c.rest with
    | ']' :: _ => return ([value], c.drop 1)
    | ',' :: _ =>
      let (values, c) ← elements? fuel (c.drop 1).skip
      return (value :: values, c)
    | _ => none

/-- Reads the entries of a table in braces, and its closing brace. -/
def entries? : Nat → Table → Cursor → Option (Table × Cursor)
  | 0, _, _ => none
  | fuel + 1, entries, c => do
    if c.rest.head? = some '\x7d' then return (entries, c.drop 1)
    let (key, c) ← key? true c
    let c := c.skip
    let (value, c) ←
      if c.rest.head? = some ',' || c.rest.head? = some '\x7d' then some (.absent, c) else inner? fuel c
    let entries ← insert? key value entries
    let c := c.skip
    match c.rest with
    | '\x7d' :: _ => return (entries, c.drop 1)
    | ',' :: _ => entries? fuel entries (c.drop 1).skip
    | _ => none

end

/-- Reads a value that does not consist of lines set in: one in brackets, or a text, whose further lines
have at least `least` blanks before them. -/
def single? (least : Nat) (c : Cursor) : Option (Value × Cursor) :=
  match c.rest with
  | '[' :: _ | '\x7b' :: _ => inner? (c.rest.length + 1) c
  | '"' :: _ | '\'' :: _ => inner? 1 c
  | '|' :: s => (block? false least s).map fun (s, rest) => (.text (String.ofList s), ⟨0, true, rest⟩)
  | '>' :: s => (block? true least s).map fun (s, rest) => (.text (String.ofList s), ⟨0, true, rest⟩)
  | s => do
    if !startsPlain false s then none
    let (s, rest) ← plain? false least (s.length + 1) s
    return (← resolve? s, c.advance rest)

mutual

/-- Reads a value of any kind that is set in by at least `least` blanks. Where none is, nothing
stands. -/
def node? (least : Nat) : Nat → Cursor → Option (Value × Cursor)
  | 0, _ => none
  | fuel + 1, c =>
    if c.rest.isEmpty || c.column < least then some (.absent, c)
    else if startsElement c.rest then list? c.column fuel c
    else if (key? false c).isSome then table? c.column [] fuel c
    else single? least c

/-- Reads the elements of a list, whose dashes stand in one column. -/
def list? (column : Nat) : Nat → Cursor → Option (Value × Cursor)
  | 0, _ => none
  | fuel + 1, c => do
    let (value, c) ← node? (column + 1) fuel (c.drop 1).skip
    let c := c.skip
    if !c.startsLine then none
    if c.column = column && startsElement c.rest then
      match ← list? column fuel c with
      | (.array values, c) => return (.array (value :: values), c)
      | _ => none
    else if column < c.column then none
    else return (.array [value], c)

/-- Reads the entries of a table, whose keys stand in one column. The elements of a list under a key may
stand there too. -/
def table? (column : Nat) (entries : Table) : Nat → Cursor → Option (Value × Cursor)
  | 0, _ => none
  | fuel + 1, c => do
    let (key, c) ← key? false c
    let c := c.skip
    let (value, c) ←
      if !c.startsLine then single? (column + 1) c
      else if c.column = column && startsElement c.rest then list? column fuel c
      else node? (column + 1) fuel c
    let entries ← insert? key value entries
    let c := c.skip
    if !c.startsLine then none
    if c.rest.isEmpty || c.column < column then return (.table entries, c)
    if c.column = column && !startsElement c.rest then table? column entries fuel c else none

end

/-- The lines of a document without the marks of its start and its end. There may be only one. -/
def body? (lines : List (List Char)) : Option (List (List Char)) :=
  let isMark (mark : String) (line : List Char) : Bool :=
    mark.toList.isPrefixOf line && startsGap (line.drop 3)
  let isIdle (line : List Char) : Bool :=
    (line.dropWhile isGap).head?.all (· = '#')
  let start := lines.dropWhile isIdle
  let content := match start with
    | [] => []
    | line :: rest =>
      if isMark "---" line then ([' ', ' ', ' '] ++ line.drop 3) :: rest else line :: rest
  let inside := content.takeWhile fun line => !isMark "---" line && !isMark "..." line
  let after := content.drop inside.length
  if after.isEmpty || (isMark "..." (after.headD []) && (after.drop 1).all isIdle) then some inside
  else none

/-- The table that a document describes. -/
def parse? (document : String) : Option Table := do
  let lines := (split '\n' (document.toList.filter (· ≠ '\r')))
  let body ← body? lines
  let text := join ['\n'] body
  let c := (Cursor.mk 0 true text).skip
  if c.rest.isEmpty then return []
  match ← node? 0 (2 * text.length + 2) c with
  | (.table entries, c) => if c.skip.rest.isEmpty then some entries else none
  | _ => none

end LogIntake.Yaml
