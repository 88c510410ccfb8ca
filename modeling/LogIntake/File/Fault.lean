/-!
# Faults of files and connections

* `FaultKind`, `Fault`: what went wrong, and its wording.
* `Fault.notFound` and others: the faults of the operating system.
-/

namespace LogIntake

/-- The kinds of faults that are told apart. -/
inductive FaultKind where
  | notFound
  | notConnected
  | connectionReset
  | connectionAborted
  | brokenPipe
  | notADirectory
  | isADirectory
  | invalidInput
  | other
deriving DecidableEq, Repr

/-- A fault of a file or a connection. -/
structure Fault where
  kind : FaultKind
  text : String
deriving DecidableEq, Repr

namespace Fault

/-- Nothing stands under the path. -/
def notFound : Fault := ⟨.notFound, "No such file or directory (os error 2)"⟩

/-- A path leads through something that is no directory. -/
def notADirectory : Fault := ⟨.notADirectory, "Not a directory (os error 20)"⟩

/-- A file is wanted and a directory is found. -/
def isADirectory : Fault := ⟨.isADirectory, "Is a directory (os error 21)"⟩

/-- A name of a path, or the whole path, is too long. -/
def nameTooLong : Fault := ⟨.other, "File name too long (os error 36)"⟩

/-- The content of a directory cannot be read as that of a file. -/
def noSuchDevice : Fault := ⟨.other, "No such device (os error 19)"⟩

/-- A file is wanted and something else is found. -/
def notRegular : Fault := ⟨.invalidInput, "not a regular file"⟩

/-- A path holds the character that ends a path. -/
def endedPath : Fault := ⟨.invalidInput, "file name contained an unexpected NUL byte"⟩

end Fault

end LogIntake
