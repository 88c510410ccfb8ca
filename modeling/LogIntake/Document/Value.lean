import LogIntake.Number.Double

/-!
# Values of documents

What a document says is a table, whose values can be tables again.

* `Value`: a text, a number, a truth value, an array, a table, or nothing at all.
* `Value.merge`: a value laid over another one, tables entry by entry.
-/

namespace LogIntake.Document

/-- A value of a document. The keys of a table differ from each other. -/
inductive Value where
  /-- There is a place for a value, and nothing stands there. -/
  | absent
  | text (s : String)
  | integer (n : Int)
  | real (d : Double)
  | boolean (b : Bool)
  | array (elements : List Value)
  | table (entries : List (String × Value))
deriving Repr

/-- The entries of a table. -/
abbrev Table := List (String × Value)

/-- The table with a value under a key, in place of an earlier one. -/
def Table.set (key : String) (value : Value) : Table → Table
  | [] => [(key, value)]
  | (k, v) :: rest => if k = key then (key, value) :: rest else (k, v) :: set key value rest

namespace Value

/-- The entries of a value that is a table, and none of any other value. -/
def entries : Value → Table
  | .table entries => entries
  | _ => []

/-- The elements of a value that is an array, and none of any other value. -/
def elements : Value → List Value
  | .array elements => elements
  | _ => []

mutual

/-- A value laid over another one: a table keeps the entries that the upper one lacks, and any other
value gives way. -/
def merge (lower : Value) : Value → Value
  | .table upper => .table (mergeEntries lower.entries upper)
  | upper => upper

/-- Entries laid over those of a table. -/
def mergeEntries (lower : Table) : List (String × Value) → Table
  | [] => lower
  | (key, upper) :: rest =>
    mergeEntries (Table.set key (merge ((lower.lookup key).getD .absent) upper) lower) rest

end

end Value

end LogIntake.Document
