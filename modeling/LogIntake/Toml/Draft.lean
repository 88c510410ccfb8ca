import LogIntake.Document.Value

/-!
# Tables in the making

The rules on which tables may be added to, and from where.

* `Draft`: a value, a table with the way in which it came up, or an array of tables.
* `Draft.assign?`: puts a value under a dotted key.
* `Draft.openTable?`, `Draft.openElement?`: takes note of the headers of tables and of elements of
  arrays of tables.
* `Draft.value`: the finished value.
-/

namespace LogIntake.Toml

open Document

/-- How a table came up: as a step on the way to a table inside it, by a dotted key, or by a header
of its own. -/
inductive Origin where
  | onTheWay
  | dotted
  | header
deriving DecidableEq, Repr

/-- A value in the making. -/
inductive Draft where
  | value (v : Value)
  | table (origin : Origin) (entries : List (String × Draft))
  /-- The tables of an array, the last one first. -/
  | tables (elements : List (List (String × Draft)))

/-- Entries of a table in the making. -/
abbrev Entries := List (String × Draft)

namespace Draft

/-- The entries with a draft under a key, in place of an earlier one. -/
def set (key : String) (draft : Draft) : Entries → Entries
  | [] => [(key, draft)]
  | (k, d) :: rest => if k = key then (key, draft) :: rest else (k, d) :: set key draft rest

/-- Puts a value under a dotted key, where nothing may stand yet. A table on the way must have no header
of its own, and from then on has none. Of an array of tables the last one is meant, as long as the
value is not for that table itself. -/
def assign? (v : Value) : List String → Entries → Option Entries
  | [], _ => none
  | [key], entries =>
    match entries.lookup key with
    | none => some (set key (.value v) entries)
    | some _ => none
  | key :: path, entries =>
    match entries.lookup key with
    | none => (assign? v path []).map fun inner => set key (.table .dotted inner) entries
    | some (.table .header _) => none
    | some (.table _ inner) =>
      (assign? v path inner).map fun inner => set key (.table .dotted inner) entries
    | some (.tables (last :: earlier)) =>
      if path.length = 1 then none
      else (assign? v path last).map fun last => set key (.tables (last :: earlier)) entries
    | some _ => none

/-- Applies a change to the entries at the end of a path of tables. Of an array of tables the last
one is meant. -/
def change? (f : Entries → Option Entries) : List String → Entries → Option Entries
  | [], entries => f entries
  | key :: path, entries =>
    match entries.lookup key with
    | none => (change? f path []).map fun inner => set key (.table .onTheWay inner) entries
    | some (.table origin inner) =>
      (change? f path inner).map fun inner => set key (.table origin inner) entries
    | some (.tables (last :: earlier)) =>
      (change? f path last).map fun last => set key (.tables (last :: earlier)) entries
    | some _ => none

/-- Takes note of the header of a table. A table has one header at most, and none if it came up by a
dotted key. -/
def openTable? (path : List String) (key : String) (entries : Entries) : Option Entries :=
  change? (fun entries =>
    match entries.lookup key with
    | none => some (set key (.table .header []) entries)
    | some (.table .onTheWay inner) => some (set key (.table .header inner) entries)
    | some _ => none) path entries

/-- Takes note of the header of an element of an array of tables. -/
def openElement? (path : List String) (key : String) (entries : Entries) : Option Entries :=
  change? (fun entries =>
    match entries.lookup key with
    | none => some (set key (.tables [[]]) entries)
    | some (.tables elements) => some (set key (.tables ([] :: elements)) entries)
    | some _ => none) path entries

mutual

/-- The finished value. -/
def finish : Draft → Value
  | .value v => v
  | .table _ entries => .table (finishEntries entries)
  | .tables elements => .array (finishElements elements [])

/-- The finished entries. -/
def finishEntries : List (String × Draft) → List (String × Value)
  | [] => []
  | (key, draft) :: rest => (key, finish draft) :: finishEntries rest

/-- The finished elements, put in order in front of the later ones. -/
def finishElements : List (List (String × Draft)) → List Value → List Value
  | [], later => later
  | entries :: earlier, later => finishElements earlier (.table (finishEntries entries) :: later)

end

end Draft

end LogIntake.Toml
