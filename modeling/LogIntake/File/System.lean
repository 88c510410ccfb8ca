import LogIntake.File.Disk
import LogIntake.Uri.Basic

/-!
# File systems

* `FileSystem`: opens the addresses of one scheme.
* `FileSystems`: the file systems by their schemes.
* `FileSystems.open`: opens an address in the file system of its scheme.
* `FileSystems.requiresCredentials`: whether a text is an address whose scheme asks for credentials.
-/

namespace LogIntake

/-- Why an address cannot be opened. -/
inductive OpenError where
  | invalidUri (text : String)
  | unsupportedScheme (scheme : String)
  | missingCredentials (uri : String)
  | denied (uri reason : String)
  | failed (uri : String) (fault : Fault)
deriving DecidableEq, Repr

/-- The wording of a refusal. -/
def OpenError.message : OpenError → String
  | .invalidUri text => "invalid URI '" ++ text ++ "'"
  | .unsupportedScheme scheme => "no file system registered for scheme '" ++ scheme ++ "'"
  | .missingCredentials uri => uri ++ " requires credentials"
  | .denied uri reason => "authentication failed for " ++ uri ++ ": " ++ reason
  | .failed uri fault => "cannot open " ++ uri ++ ": " ++ fault.text

/-- Reads an address. -/
def Uri.read (text : String) : Except OpenError Uri :=
  (Uri.parse text).mapError .invalidUri

variable {File : Type}

/-- Opens the addresses of one scheme. -/
structure FileSystem (File : Type) where
  requiresCredentials : Bool := false
  openFile : Uri → Option Credentials → Except OpenError File

/-- The file systems under their schemes, in the order of the schemes. -/
structure FileSystems (File : Type) where
  entries : List (String × FileSystem File) := []

namespace FileSystems

/-- Sets the file system of a scheme, in place of an earlier one. -/
def register (scheme : String) (system : FileSystem File) (systems : FileSystems File) :
    FileSystems File :=
  let others := systems.entries.filter (·.1 ≠ scheme)
  ⟨others.filter (·.1 < scheme) ++ (scheme, system) :: others.filter (scheme < ·.1)⟩

/-- The schemes that have a file system, in their order. -/
def schemes (systems : FileSystems File) : List String :=
  systems.entries.map (·.1)

/-- The file system for an address. -/
def resolve (systems : FileSystems File) (uri : Uri) : Except OpenError (FileSystem File) :=
  match systems.entries.lookup uri.scheme with
  | some system => .ok system
  | none => .error (.unsupportedScheme uri.scheme)

/-- Whether a text is an address whose scheme asks for credentials. -/
def requiresCredentials (systems : FileSystems File) (text : String) : Bool :=
  match Uri.parse text with
  | .error _ => false
  | .ok uri =>
    match systems.resolve uri with
    | .error _ => false
    | .ok system => system.requiresCredentials

/-- Opens an address. Credentials that are given go before those in the address; where the scheme
asks for credentials there must be some, or at least a user. -/
def openUri (systems : FileSystems File) (uri : Uri) (credentials : Option Credentials) :
    Except OpenError File := do
  let system ← systems.resolve uri
  let credentials := credentials.or uri.embedded
  if system.requiresCredentials && credentials.isNone && uri.user.isNone then
    throw (.missingCredentials uri.redacted)
  system.openFile uri credentials

end FileSystems

/-- The file system of what stands under paths. Only a file can be opened; what is opened is its
path. -/
def localFileSystem (find : String → Except Fault Node) : FileSystem String where
  openFile uri _ :=
    match find uri.path with
    | .ok (.file _) => .ok uri.path
    | .ok (.directory _) => .error (.failed uri.redacted .notRegular)
    | .error fault => .error (.failed uri.redacted fault)

end LogIntake
