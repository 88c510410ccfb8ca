import LogIntake.Document.Format
import LogIntake.Document.Place
import LogIntake.File.Disk
import LogIntake.Settings.Conversion
import LogIntake.Text.Utf8

/-!
# Loading settings

* `Settings.ofDocument?`: the settings of a document, laid over the default ones.
* `Settings.ofBytes`: the settings of the bytes of a file.
* `Settings.findDocument?`: the document under a path, whose ending can be left out.
* `Settings.loadFrom`, `Settings.loadOptional`: the settings of a document that must exist, and of one
  that need not.
* `Settings.loadUser`: the settings of a user, with a document written for one who has none.
-/

namespace LogIntake

/-- Why settings cannot be loaded. -/
inductive SettingsError where
  | io (fault : Fault)
  | invalid
deriving DecidableEq, Repr

/-- The wording of a refusal. -/
def SettingsError.message : SettingsError → String
  | .io fault => "I/O error: " ++ fault.text
  | .invalid => "invalid configuration"

namespace Settings

/-- The settings of a document. What it leaves out is as in the default document. -/
def ofDocument? (format : Document.Format) (document : String) : Option Settings := do
  let defaults ← Document.Format.toml.parse? defaultDocument
  let entries ← format.parse? document
  ofTable? (Document.Table.overlay defaults entries)

/-- The mark of the byte order, in front of a text. -/
def byteOrderMark : List UInt8 := [0xef, 0xbb, 0xbf]

/-- The settings of a file with given bytes. -/
def ofBytes (format : Document.Format) (bytes : List UInt8) : Except SettingsError Settings :=
  let content := if byteOrderMark.isPrefixOf bytes then bytes.drop byteOrderMark.length else bytes
  match ofDocument? format (String.ofList (Text.Utf8.decodeLossy content)) with
  | some settings => .ok settings
  | none => .error .invalid

/-! ## Files -/

/-- A path, given from its end, without the slashes and steps at its end that lead nowhere. -/
def trimEnd : List Char → List Char
  | '/' :: rest => trimEnd rest
  | '.' :: '/' :: rest => trimEnd rest
  | path => path

/-- A path to which an ending can be added: it ends in a name. -/
def named? (path : String) : Option String :=
  match trimEnd path.toList.reverse with
  | [] | '.' :: '.' :: '/' :: _ => none
  | path => some (String.ofList path.reverse)

/-- The paths under which a document is looked for: its own one, and those with an ending added. -/
def places (path : String) : List String :=
  let endings := Document.Format.endings.map (·.1)
  path :: ((named? path).map fun name => endings.map (name ++ "." ++ ·)).getD []

/-- The document under a path from the root: the first file in its places, if the name of that has a
known ending. What files hold is told by `content`. -/
def findDocument? (content : String → Option (List UInt8)) (path : String) :
    Option (Document.Format × List UInt8) := do
  let place ← (places path).find? fun place => (content place).isSome
  return (← Document.Format.ofPath? place, ← content place)

/-- The settings of a document that must exist. -/
def loadFrom (content : String → Option (List UInt8)) (path : String) :
    Except SettingsError Settings :=
  match findDocument? content path with
  | some (format, bytes) => ofBytes format bytes
  | none => .error .invalid

/-- The settings of a document that need not exist. -/
def loadOptional (content : String → Option (List UInt8)) (path : String) :
    Except SettingsError Settings :=
  match findDocument? content path with
  | some (format, bytes) => ofBytes format bytes
  | none => .ok {}

/-- The folder for the document of a user, inside the folder for all settings. -/
def folderName : String := "chainsaw"

/-- The name of the document of a user. -/
def fileName : String := "config.toml"

/-- The path of the document of a user, in a given folder for all settings. -/
def userPath (home : String) : String := home ++ "/" ++ folderName ++ "/" ++ fileName

/-- Whether the directory under a path exists or can be made, since no file is in its way. -/
def canMake (root : Node) : List String → Except Fault Unit
  | [] => match root with
    | .directory _ => .ok ()
    | .file _ => .error ⟨.other, "File exists (os error 17)"⟩
  | name :: rest =>
    match root with
    | .file _ => .error .notADirectory
    | .directory entries =>
      match entries.lookup name with
      | none => .ok ()
      | some node => canMake node rest

/-- The settings of a user, given the folder for all settings. If nothing stands in the place of the
document, the default one is written. The result tells what stands on the disk afterwards. -/
def loadUser (root : Node) (home : String) : Except SettingsError Settings × Node :=
  let folder := Node.names home ++ [folderName]
  let path := userPath home
  match root.find "/" path with
  | .ok _ => (loadOptional (root.bytes? "/") path, root)
  | .error _ =>
    match canMake root folder with
    | .error fault => (.error (.io fault), root)
    | .ok () =>
      let root := root.put (folder ++ [fileName]) (.file (Text.Utf8.encode defaultDocument.toList))
      (loadOptional (root.bytes? "/") path, root)

end Settings

end LogIntake
