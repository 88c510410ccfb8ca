import LogIntake.Document.Value
import LogIntake.Settings.Basic
import LogIntake.Text.Lowercase

/-!
# Settings from values

Single values are converted where the meaning is plain: the text `yes` is a truth value and the text
`7` a number. In the connection of a receiver every value must be of the right kind.

* `Document.Value.truth?`, `Document.Value.count?`, `Document.Value.name?`: the conversions.
* `Settings.ofTable?`: the settings of a whole document.
-/

namespace LogIntake

namespace Document.Value

/-- The words for a truth value. -/
def truthWord? (word : List Char) : Option Bool :=
  if ["true".toList, "on".toList, "yes".toList].contains word then some true
  else if ["false".toList, "off".toList, "no".toList].contains word then some false
  else none

/-- A truth value, from a number or a word if need be. -/
def truth? : Value → Option Bool
  | .boolean b => some b
  | .integer n => some (n != 0)
  | .real d => some d.isNonzero
  | .text s =>
    let word := Text.lowercase s.toList
    if word = ['1'] then some true else if word = ['0'] then some false else truthWord? word
  | .absent | .array _ | .table _ => none

/-- The greatest number of 64 bits. -/
def greatestCount : Nat := Nat.pow 2 64 - 1

/-- The number that decimal digits tell, after a plus sign or none. -/
def plainCount? (s : List Char) : Option Nat :=
  let digits := match s with
    | '+' :: rest => rest
    | _ => s
  if digits.isEmpty || !digits.all Text.isAsciiDigit then none
  else some (digits.foldl (fun n c => n * 10 + Text.digitValue c) 0)

/-- A number from zero up to a bound, from a text, a truth value or a decimal number if need be. -/
def count? (bound : Nat) (v : Value) : Option Nat :=
  let n : Option Nat := match v with
    | .integer n => if 0 ≤ n then some n.toNat else none
    | .boolean b => some (if b then 1 else 0)
    | .real d => some (min d.round.toNat greatestCount)
    | .text s =>
      match truthWord? (Text.lowercase s.toList) with
      | some b => some (if b then 1 else 0)
      | none => plainCount? s.toList
    | .absent | .array _ | .table _ => none
  n.filter (· ≤ bound)

/-- A text, from a number or a truth value if need be. -/
def name? : Value → Option String
  | .text s => some s
  | .integer n => some (if n < 0 then "-" ++ String.ofList (Nat.toDigits 10 n.natAbs)
      else String.ofList (Nat.toDigits 10 n.natAbs))
  | .boolean b => some (if b then "true" else "false")
  | .real d => some d.text
  | .absent | .array _ | .table _ => none

/-- A text and nothing else. -/
def text? : Value → Option String
  | .text s => some s
  | _ => none

/-- A text or nothing at all. -/
def optionalText? : Value → Option (Option String)
  | .absent => some none
  | v => (text? v).map some

/-- A truth value and nothing else. -/
def boolean? : Value → Option Bool
  | .boolean b => some b
  | _ => none

/-- The entries of a section. An array stands for the section whose entries it holds in the order of
the keys. -/
def section? (keys : List String) : Value → Option Table
  | .table entries => some entries
  | .array elements => some (keys.zip elements)
  | _ => none

/-- What a conversion makes of the value under a key, or what holds without it. -/
def orElse {α : Type} (entries : Table) (key : String) (default : α) (convert : Value → Option α) :
    Option α :=
  match entries.lookup key with
  | none => some default
  | some v => convert v

end Document.Value

open Document.Value

/-- The keys under which the address of a connection may stand. -/
def addressKeys : List String := ["file_url", "fileURL", "fileurl"]

/-- The connection of a receiver. Only one of the keys for the address may be used. -/
def Connection.ofTable? (entries : Document.Table) : Option Connection := do
  let uri ← match entries.filter fun entry => addressKeys.contains entry.1 with
    | [] => some ""
    | [(_, v)] => text? v
    | _ => none
  let c : Connection := {}
  return {
    uri
    logFormat := ← orElse entries "log_format" c.logFormat text?
    timestampFormat := ← orElse entries "timestamp_format" c.timestampFormat text?
    tailing := ← orElse entries "tailing" c.tailing boolean?
    filterExpression := ← orElse entries "filter_expression" none optionalText?
    promptForUser := ← orElse entries "prompt_for_user_info" c.promptForUser boolean?
    keepUnmatched := ← orElse entries "append_non_matches" c.keepUnmatched boolean? }

/-- A receiver must have a name. -/
def ReceiverEntry.ofValue? : Document.Value → Option ReceiverEntry
  | .table entries => do
    let name ← (entries.lookup "name").bind name?
    return { name, connection := ← Connection.ofTable? entries }
  | _ => none

/-- The settings about discovery. -/
def DiscoverySettings.ofValue? (v : Document.Value) : Option DiscoverySettings := do
  let entries ← section? ["enabled", "auto_connect"] v
  let names? : Document.Value → Option (List String)
    | .array elements => elements.mapM name?
    | _ => none
  return {
    enabled := ← orElse entries "enabled" true truth?
    autoConnect := ← orElse entries "auto_connect" [] names? }

/-- The settings about waits. -/
def TimingSettings.ofValue? (v : Document.Value) : Option TimingSettings := do
  let entries ← section? ["poll_interval_secs", "retry_interval_secs"] v
  return {
    poll := ← orElse entries "poll_interval_secs" 5 (count? greatestCount)
    retry := ← orElse entries "retry_interval_secs" 10 (count? greatestCount) }

/-- The settings about the display. -/
def SinkSettings.ofValue? (v : Document.Value) : Option SinkSettings := do
  let entries ← section? ["ring_buffer_size", "detail_level"] v
  return {
    capacity := ← orElse entries "ring_buffer_size" 16384 (count? greatestCount)
    detail := ← orElse entries "detail_level" 4 (count? 255) }

/-- The settings of a whole document. Keys that are not known are passed over. -/
def Settings.ofTable? (entries : Document.Table) : Option Settings := do
  let receivers? : Document.Value → Option (List ReceiverEntry)
    | .array elements => elements.mapM ReceiverEntry.ofValue?
    | _ => none
  return {
    discovery := ← orElse entries "discovery" {} DiscoverySettings.ofValue?
    timing := ← orElse entries "timing" {} TimingSettings.ofValue?
    sink := ← orElse entries "sink" {} SinkSettings.ofValue?
    receivers := ← orElse entries "receivers" [] receivers? }

end LogIntake
