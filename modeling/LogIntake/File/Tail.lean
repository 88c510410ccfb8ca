import LogIntake.Connection.Basic
import LogIntake.File.System
import LogIntake.Receiver.Source
import LogIntake.Text.Utf8

/-!
# Following a growing file

* `Cursor`: how much of a file has been delivered.
* `completeLines`: the bytes up to the last line feed, the part that can no longer change.
* `linesOfBytes`: the lines of bytes as text.
* `Cursor.poll`: the lines that a file has gained since the last poll.
* `TailSource`: follows the file of an address.
-/

namespace LogIntake

/-- How many bytes have been delivered, and the size at the last poll that succeeded. -/
structure Cursor where
  position : Nat := 0
  knownSize : Nat := 0
deriving DecidableEq, Repr

/-- The byte at the end of a line. -/
def lineFeed : UInt8 := 10

/-- The byte that may stand before a line feed. -/
def carriageReturn : UInt8 := 13

/-- The bytes up to the last line feed. -/
def completeLines (bytes : List UInt8) : List UInt8 :=
  (bytes.reverse.dropWhile (· != lineFeed)).reverse

/-- The pieces of bytes between line feeds, at least one. -/
def splitLines : List UInt8 → List (List UInt8)
  | [] => [[]]
  | b :: rest =>
    if b = lineFeed then [] :: splitLines rest
    else match splitLines rest with
      | [] => [[b]]
      | piece :: pieces => (b :: piece) :: pieces

/-- The text of a line, without one carriage return at its end. -/
def lineOfBytes (piece : List UInt8) : String :=
  String.ofList <| Text.Utf8.decodeLossy <|
    if piece.getLast? = some carriageReturn then piece.dropLast else piece

/-- The lines of bytes. What follows the last line feed is a line only if it holds something. -/
def linesOfBytes (bytes : List UInt8) : List String :=
  let pieces := splitLines bytes
  let pieces := if pieces.getLast? = some [] then pieces.dropLast else pieces
  pieces.map lineOfBytes

namespace Cursor

/-- What a poll does about a file of a given size. -/
inductive Plan where
  /-- The file has shrunk, so it is another one: begin again. -/
  | restart
  /-- There is nothing new. -/
  | rest
  /-- There are new bytes in a range. -/
  | read (start stop : Nat)
deriving DecidableEq, Repr

/-- What to do about a file of a given size. -/
def plan (c : Cursor) (size : Nat) : Plan :=
  if size < c.knownSize || size < c.position then .restart
  else if size = c.position then .rest
  else .read c.position size

/-- The lines that a file has gained, and the cursor after them. While the file is followed, bytes
after the last line feed wait for the next poll. A fault leaves the cursor as it was. -/
def poll (tailing : Bool) (view : FileView) (c : Cursor) :
    Except SourceError (List String × Cursor) :=
  match view.size with
  | .error fault => .error (.ofFault fault)
  | .ok size =>
    match c.plan size with
    | .restart => .ok ([], {})
    | .rest => .ok ([], { c with knownSize := size })
    | .read start stop =>
      match view.read start stop with
      | .error fault => .error (.ofFault fault)
      | .ok bytes =>
        let taken := if tailing then completeLines bytes else bytes
        .ok (linesOfBytes taken, ⟨c.position + taken.length, size⟩)

end Cursor

variable {File : Type}

/-- Follows the file of an address, or reads it once. -/
structure TailSource (File : Type) where
  name : String
  uri : Uri
  credentials : Option Credentials
  tailing : Bool
  file : Option File := none
  cursor : Cursor := {}

namespace TailSource

/-- The source for a connection. -/
def new (name : String) (connection : Connection) : Except OpenError (TailSource File) :=
  (Uri.read connection.uri).map fun uri =>
    { name, uri, credentials := connection.credentials, tailing := connection.tailing }

/-- Opens the file; a file that is open stays so. -/
def openFile (systems : FileSystems File) (source : TailSource File) :
    Except SourceError (TailSource File) :=
  match source.file with
  | some _ => .ok source
  | none =>
    match systems.openUri source.uri source.credentials with
    | .ok file => .ok { source with file := some file }
    | .error e => .error (.unreachable e.message)

/-- Closes the file. The cursor stays, so that the lines go on where they ended. -/
def closeFile (source : TailSource File) : TailSource File :=
  { source with file := none }

/-- The lines that the file has gained. Reading a file once ends with the first batch. -/
def poll (view : File → FileView) (source : TailSource File) :
    Except SourceError (Batch × TailSource File) :=
  match source.file with
  | none => .error .closed
  | some file =>
    (source.cursor.poll source.tailing (view file)).map fun (lines, cursor) =>
      ({ lines, atEnd := !source.tailing }, { source with cursor })

end TailSource

end LogIntake
