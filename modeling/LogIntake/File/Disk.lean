import LogIntake.File.Fault
import LogIntake.Text.Lines

/-!
# Files under paths

* `Node`: a file or a directory.
* `Node.find`: what stands under a path.
* `Node.openToAppend`: makes sure that there is a file to be written to.
* `FileView`: how a reader sees a file: its size and the bytes of a range.
* `FileView.ofNode`: the view of what stands under a path.
-/

namespace LogIntake

/-- A file with its bytes, or a directory with its entries. -/
inductive Node where
  | file (content : List UInt8)
  | directory (entries : List (String × Node))

namespace Node

/-- How many bytes a name may have. -/
def longestName : Nat := 255

/-- How many bytes a path may have. -/
def longestPath : Nat := 4095

/-- What stands under a path, given as its names. The directories on the way stand in `above`, the
nearest first; `.` and `..` lead to a directory itself and to the one above it. -/
def walk (above : List Node) : Node → List String → Except Fault Node
  | node, [] => .ok node
  | .file _, _ :: _ => .error .notADirectory
  | .directory entries, "." :: rest => walk above (.directory entries) rest
  | .directory entries, ".." :: rest =>
    match above with
    | [] => walk [] (.directory entries) rest
    | parent :: above => walk above parent rest
  | .directory entries, name :: rest =>
    if longestName < name.utf8ByteSize then .error .nameTooLong
    else match entries.lookup name with
      | none => .error .notFound
      | some node => walk (.directory entries :: above) node rest
termination_by _ path => path.length

/-- The names of a path. A slash at its end asks for a directory. -/
def names (path : String) : List String :=
  let parts := (Text.split '/' path.toList).map String.ofList
  let named := parts.filter (· ≠ "")
  if parts.getLast? = some "" then named ++ ["."] else named

/-- A path from the root, given one that leads on from a directory unless it begins with a slash. -/
def pathFrom (here path : String) : String :=
  if path.toList.head? = some '/' then path else here ++ "/" ++ path

/-- The names of a path that leads on from a directory unless it begins with a slash. There must be a
path, not too long a one. -/
def namesFrom (here path : String) : Except Fault (List String) :=
  if path.toList.contains '\x00' then .error .endedPath
  else if path = "" then .error .notFound
  else if longestPath < path.utf8ByteSize then .error .nameTooLong
  else .ok (names (pathFrom here path))

/-- What stands under a path. A path that does not begin with a slash leads on from the directory
`here`. -/
def find (root : Node) (here path : String) : Except Fault Node := do
  walk [] root (← namesFrom here path)

/-- Puts a file or a directory under a path of names, with the directories on the way. -/
def put : Node → List String → Node → Node
  | _, [], node => node
  | .file _, name :: rest, node => .directory [(name, put (.directory []) rest node)]
  | .directory entries, name :: rest, node =>
    let inner := put ((entries.lookup name).getD (.directory [])) rest node
    .directory ((name, inner) :: entries.filter (·.1 ≠ name))

/-- The bytes of the file under a path, if there is one. -/
def bytes? (root : Node) (here path : String) : Option (List UInt8) :=
  match root.find here path with
  | .ok (.file content) => some content
  | _ => none

/-- The names of a path from the root, without `.` and `..`. -/
def plainNames (names : List String) : List String :=
  (names.foldl (fun taken name =>
    if name = "." then taken else if name = ".." then taken.drop 1 else name :: taken) []).reverse

/-- The disk after a file has been opened for writing at its end. A file that is missing is made, in a
directory that must be there. -/
def openToAppend (root : Node) (here path : String) : Except Fault Node := do
  let names ← namesFrom here path
  let asksDirectory := path.toList.getLast? = some '/'
  let names := if asksDirectory then names.dropLast else names
  match ← walk [] root names.dropLast with
  | .file _ => throw .notADirectory
  | .directory _ =>
    if asksDirectory then throw .isADirectory
    match walk [] root names with
    | .ok (.directory _) => throw .isADirectory
    | .ok (.file _) => return root
    | .error fault =>
      if fault = .notFound then return root.put (plainNames names) (.file []) else throw fault

/-- Takes away what stands under a path of names. -/
def remove : Node → List String → Node
  | .file content, _ => .file content
  | node, [] => node
  | .directory entries, [name] => .directory (entries.filter (·.1 ≠ name))
  | .directory entries, name :: rest =>
    .directory (entries.map fun (n, node) => (n, if n = name then node.remove rest else node))
termination_by _ path => path.length

/-- The size that a directory reports. -/
def directorySize : Nat := 4096

end Node

/-- How a reader sees a file at a moment: its size, and the bytes of a range. -/
structure FileView where
  size : Except Fault Nat
  read : Nat → Nat → Except Fault (List UInt8)

/-- The bytes from `start` up to `stop`, as far as there are any. -/
def sliceBytes (bytes : List UInt8) (start stop : Nat) : List UInt8 :=
  (bytes.take stop).drop start

/-- The view of a file with given bytes. -/
def FileView.ofBytes (bytes : List UInt8) : FileView where
  size := .ok bytes.length
  read start stop := .ok (sliceBytes bytes start stop)

/-- The view of a file that cannot be reached. -/
def FileView.ofFault (fault : Fault) : FileView where
  size := .error fault
  read _ _ := .error fault

/-- The view of what stands at a place. A directory has a size but no bytes to read. -/
def FileView.ofNode : Except Fault Node → FileView
  | .error fault => .ofFault fault
  | .ok (.file content) => .ofBytes content
  | .ok (.directory _) =>
    { size := .ok Node.directorySize
      read := fun start stop =>
        if start < min stop Node.directorySize then .error .noSuchDevice else .ok [] }

end LogIntake
