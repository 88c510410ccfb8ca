import LogIntake.Ini.Document
import LogIntake.Json.Plain
import LogIntake.Json.Relaxed
import LogIntake.Ron.Document
import LogIntake.Toml.Document
import LogIntake.Yaml.Document

/-!
# Formats of documents

* `Format`: the formats that can be read, known by the endings of the names of files.
* `Format.ofPath?`: the format of the file under a path.
* `Format.parse?`: the table that a document describes.
-/

namespace LogIntake.Document

/-- A format of documents. -/
inductive Format where
  | toml
  | json
  | json5
  | ini
  | yaml
  | ron
deriving DecidableEq, Repr

namespace Format

/-- What the names of files end in, behind a point, and their formats, in the order in which they are
looked for. -/
def endings : List (String × Format) :=
  [("toml", .toml), ("json", .json), ("yaml", .yaml), ("yml", .yaml), ("ini", .ini), ("ron", .ron),
    ("json5", .json5)]

/-- The ending of the name of a file: what stands behind its last point, unless the name begins
there. -/
def endingOf (path : String) : Option String :=
  let name := path.toList.reverse.takeWhile (· != '/')
  let ending := name.takeWhile (· != '.')
  if ending.length + 1 < name.length then some (String.ofList ending.reverse) else none

/-- The format of the file under a path. -/
def ofPath? (path : String) : Option Format :=
  (endingOf path).bind fun ending => endings.lookup ending

/-- The table that a document describes, unless it breaks a rule of its format. -/
def parse? : Format → String → Option Table
  | .toml, document => Toml.parse? document
  | .json, document => Json.plain.parse? document
  | .json5, document => Json.relaxed.parse? document
  | .ini, document => Ini.parse? document
  | .yaml, document => Yaml.parse? document
  | .ron, document => Ron.parse? document

end Format

end LogIntake.Document
