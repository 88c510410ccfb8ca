import LogIntake.CommandLine.Switch
import LogIntake.Text.CharClass
import LogIntake.Text.Halves

/-!
# Reading the command line

* `Arguments`: what the command line says.
* `Misuse`: why a command line cannot be read.
* `Argument`: one argument, by the way it is written.
* `Arguments.parse`: what the arguments say, unless help is asked for or one of them is wrong. The first
  argument for which that is so decides.
-/

namespace LogIntake.CommandLine

/-- What the command line says. -/
structure Arguments where
  config : Option String := none
  file : Option String := none
  format : Option String := none
  timestampFormat : Option String := none
  once : Bool := false
  noDiscovery : Bool := false
  autoConnect : List String := []
  detail : Option Nat := none
  verbosity : Nat := 0
  debugLog : Option String := none
deriving DecidableEq, Repr

/-- Why a command line cannot be read. -/
inductive Misuse where
  | unexpected (argument : String)
  | repeated (switch : Switch)
  | missingValue (switch : Switch)
  | unwantedValue (switch : Switch) (value : String)
  | invalidValue (switch : Switch) (value : String)
deriving DecidableEq, Repr

/-- The wording of a complaint. -/
def Misuse.message : Misuse → String
  | .unexpected argument => "unexpected argument '" ++ argument ++ "' found"
  | .repeated switch => "the argument '" ++ switch.usage ++ "' cannot be used multiple times"
  | .missingValue switch =>
    "a value is required for '" ++ switch.usage ++ "' but none was supplied"
  | .unwantedValue switch value =>
    "unexpected value '" ++ value ++ "' for '" ++ switch.usage ++ "' found; no more were expected"
  | .invalidValue switch value => "invalid value '" ++ value ++ "' for '" ++ switch.usage ++ "'"

/-- Why reading stops before the end. -/
inductive Stop where
  | help
  | misuse (e : Misuse)
deriving DecidableEq, Repr

/-- One argument, by the way it is written. -/
inductive Argument where
  /-- Two hyphens alone: no switch follows. -/
  | endOfSwitches
  /-- Two hyphens and a name, with a value after an equals sign. -/
  | long (name : String) (value : Option String)
  /-- One hyphen and letters. -/
  | letters (letters : List Char)
  | plain (text : String)
deriving DecidableEq, Repr

/-- How an argument is written. One hyphen alone is plain text. -/
def Argument.ofText (text : String) : Argument :=
  match text.toList with
  | ['-', '-'] => .endOfSwitches
  | '-' :: '-' :: rest =>
    match Text.splitFirst? '=' rest with
    | some (name, value) => .long (String.ofList name) (some (String.ofList value))
    | none => .long (String.ofList rest) none
  | '-' :: letter :: rest => .letters (letter :: rest)
  | _ => .plain text

/-- The greatest detail that can be asked for. -/
def greatestDetail : Nat := 4

/-- A number of columns: digits, which a sign may precede. -/
def detail? (text : String) : Option Nat :=
  let (negative, digits) := match text.toList with
    | '+' :: rest => (false, rest)
    | '-' :: rest => (true, rest)
    | s => (false, s)
  if digits.isEmpty || !digits.all Text.isAsciiDigit then none
  else
    let n := digits.foldl (fun n c => n * 10 + Text.digitValue c) 0
    if n ≤ greatestDetail ∧ (negative → n = 0) then some n else none

/-- The arguments so far, with the switches that have been given. -/
structure Reading where
  arguments : Arguments := {}
  given : List Switch := []
deriving DecidableEq, Repr

namespace Reading

/-- The arguments with a switch and its value, which is empty for a switch that takes none. -/
def set (a : Arguments) (value : String) : Switch → Except Stop Arguments
  | .config => .ok { a with config := some value }
  | .file => .ok { a with file := some value }
  | .format => .ok { a with format := some value }
  | .timestampFormat => .ok { a with timestampFormat := some value }
  | .once => .ok { a with once := true }
  | .noDiscovery => .ok { a with noDiscovery := true }
  | .autoConnect => .ok { a with autoConnect := a.autoConnect ++ [value] }
  | .detail =>
    match detail? value with
    | some n => .ok { a with detail := some n }
    | none => .error (.misuse (.invalidValue .detail value))
  | .verbose => .ok { a with verbosity := a.verbosity + 1 }
  | .debugLog => .ok { a with debugLog := some value }
  | .help => .error .help

/-- Takes a switch and its value. -/
def take (r : Reading) (switch : Switch) (value : String) : Except Stop Reading := do
  if switch.takesPath && value.isEmpty then throw (.misuse (.invalidValue switch value))
  let arguments ← set r.arguments value switch
  if !switch.isRepeatable && r.given.contains switch then throw (.misuse (.repeated switch))
  return ⟨arguments, switch :: r.given⟩

/-- Takes letters, none of which stands for a switch with a value. -/
def takeLetters (r : Reading) : List Char → Except Stop Reading
  | [] => .ok r
  | letter :: rest =>
    match Switch.ofLetter? letter with
    | none => .error (.misuse (.unexpected (String.ofList ['-', letter])))
    | some switch => do takeLetters (← r.take switch "") rest

/-- Takes arguments one after the other. The value that `awaited` needs comes next. -/
def takeAll (r : Reading) (awaited : Option Switch) : List String → Except Stop Reading
  | [] =>
    match awaited with
    | some switch => .error (.misuse (.missingValue switch))
    | none => .ok r
  | argument :: rest =>
    match Argument.ofText argument, awaited with
    | .plain value, some switch => do takeAll (← r.take switch value) none rest
    | _, some switch => .error (.misuse (.missingValue switch))
    | .plain text, none => .error (.misuse (.unexpected text))
    | .endOfSwitches, none =>
      match rest with
      | [] => .ok r
      | text :: _ => .error (.misuse (.unexpected text))
    | .letters letters, none => do takeAll (← r.takeLetters letters) none rest
    | .long name value, none =>
      match Switch.ofText? name, value with
      | none, _ => .error (.misuse (.unexpected ("--" ++ name)))
      | some switch, some value =>
        if switch.takesValue then do takeAll (← r.take switch value) none rest
        else .error (.misuse (.unwantedValue switch value))
      | some switch, none =>
        if switch.takesValue then takeAll r (some switch) rest
        else do takeAll (← r.take switch "") none rest

end Reading

/-- What the arguments say. -/
def Arguments.parse (arguments : List String) : Except Stop Arguments :=
  (({} : Reading).takeAll none arguments).map (·.arguments)

end LogIntake.CommandLine
