import LogIntake.Template.Basic

/-!
# Records of several lines

* `Record`: a line that follows the template, together with the lines that continue it.
* `isStackFrame`: the lines of a stack trace.
* `Assembler.feed`, `Assembler.flush`: takes lines one at a time and hands out complete records.
-/

namespace LogIntake

/-- A line of a stack trace: white space, and then the word `at`. -/
def isStackFrame (line : List Char) : Bool :=
  match line, Text.trimStart line with
  | c :: _, 'a' :: 't' :: rest => Text.isBlank c && !rest.head?.any Text.isWordChar
  | _, _ => false

/-- A log record. Its message and its raw text have one line for each line of the record. -/
structure Record where
  fields : Captures
  message : String
  /-- The lines that belong to a stack trace. -/
  throwable : List String
  raw : String
  /-- The first line does not follow the template. -/
  unparsed : Bool
deriving DecidableEq, Repr

namespace Record

/-- The record that begins with a line whose fields have been captured. -/
def ofCaptures (captures : Captures) (line : String) : Record where
  fields := captures.filter (·.1 ≠ .message)
  message := (captures.get? .message).getD ""
  throwable := []
  raw := line
  unparsed := false

/-- The record that begins with a line that does not follow the template. -/
def ofUnmatched (line : String) : Record where
  fields := []
  message := line
  throwable := []
  raw := line
  unparsed := true

/-- The record continued by a line. -/
def append (record : Record) (line : String) : Record :=
  { record with
    message := record.message ++ "\n" ++ line
    throwable :=
      if isStackFrame line.toList then
        record.throwable ++ [String.ofList (Text.trimEnd line.toList)]
      else record.throwable
    raw := record.raw ++ "\n" ++ line }

end Record

/-- Puts lines together into records; at most one record is pending. -/
structure Assembler where
  template : Template
  /-- Lines before the first record are kept as a record of their own. -/
  keepUnmatched : Bool
  pending : Option Record := none
deriving Repr

namespace Assembler

/-- Takes a line. One that follows the template begins a record and completes the pending one; any
other continues the pending record. Lines of white space are passed over. -/
def feed (a : Assembler) (line : String) : Option Record × Assembler :=
  if Text.isAllBlank line.toList then (none, a)
  else
    match a.template.captures? line, a.pending with
    | some captures, pending => (pending, { a with pending := some (.ofCaptures captures line) })
    | none, some record => (none, { a with pending := some (record.append line) })
    | none, none =>
      (none, if a.keepUnmatched then { a with pending := some (.ofUnmatched line) } else a)

/-- Hands out the pending record. -/
def flush (a : Assembler) : Option Record × Assembler :=
  (a.pending, { a with pending := none })

end Assembler

/-! ## Small facts -/

example : isStackFrame "\tat a.B(C:1)".toList = true ∧ isStackFrame "at a".toList = false ∧
    isStackFrame " atom".toList = false := by decide

end LogIntake
