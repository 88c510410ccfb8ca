/-!
# Properties

* `Properties`: texts under keys, in the order of the keys.
* `Properties.insert`, `Properties.get?`: sets and looks up the text under a key.
-/

namespace LogIntake

/-- Texts under keys, in ascending order of the keys. -/
abbrev Properties := List (String × String)

namespace Properties

/-- The properties with a text under a key, which replaces an earlier one. -/
def insert (key value : String) : Properties → Properties
  | [] => [(key, value)]
  | (k, v) :: rest =>
    if key < k then (key, value) :: (k, v) :: rest
    else if key = k then (key, value) :: rest
    else (k, v) :: insert key value rest

/-- The text under a key. -/
def get? (properties : Properties) (key : String) : Option String :=
  properties.lookup key

/-- The properties that a list of entries sets; of two entries with one key the later one holds. -/
def ofList (entries : List (String × String)) : Properties :=
  entries.foldl (fun properties (key, value) => insert key value properties) []

end Properties

end LogIntake
