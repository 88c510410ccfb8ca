import LogIntake.Document.Value
import LogIntake.Number.Figures

/-!
# Single values in YAML

A reader takes the text and gives back what it has read with the rest of the text. Lines end in line
feeds only.

* `resolve?`: what a text without quotes stands for.
* `plainLine`: reads such a text up to the end of its line at most.
* `quoted?`: reads a text in quotes.
* `block?`: reads a text on lines of its own.
-/

namespace LogIntake.Yaml

open Document Text

/-! ## Texts without quotes -/

/-- Reads a whole number in decimal, octal or hexadecimal digits. -/
def integer? (s : List Char) : Option Int :=
  match s with
  | '0' :: 'x' :: digits => if digits.isEmpty then none else (numberIn? 16 digits).map Int.ofNat
  | '0' :: 'o' :: digits => if digits.isEmpty then none else (numberIn? 8 digits).map Int.ofNat
  | s =>
    let (negative, digits) := sign s
    if digits.isEmpty then none
    else (numberIn? 10 digits).map fun n => if negative then -(n : Int) else n

/-- Reads a number of double precision. One that is too great is infinite. -/
def real? (s : List Char) : Option Double := do
  let (negative, s) := sign s
  match ← Figures.read? s with
  | (f, []) => return (f.double? negative).getD (.infinite negative)
  | _ => none

/-- The words for infinity and for no number, which cannot be told. -/
def untoldWords : List String :=
  [".inf", ".Inf", ".INF", "+.inf", "+.Inf", "+.INF", "-.inf", "-.Inf", "-.INF", ".nan", ".NAN"]

/-- What a text without quotes stands for, unless that cannot be told. -/
def resolve? (s : List Char) : Option Value :=
  let word := String.ofList s
  if ["", "~", "null"].contains word then some .absent
  else if word = "true" then some (.boolean true)
  else if word = "false" then some (.boolean false)
  else if word = "NaN" then some (.real .notANumber)
  else if untoldWords.contains word then none
  else match (integer? s).filter fits64 with
    | some n => some (.integer n)
    | none => some (((real? s).map Value.real).getD (.text word))

/-- A character that sets off the parts of a list or a table in brackets. -/
def isBracketMark (c : Char) : Bool :=
  c == ',' || c == '[' || c == ']' || c == '\x7b' || c == '\x7d'

/-- Whether a text goes on with a blank or ends. -/
def startsGap : List Char → Bool
  | [] => true
  | c :: _ => isGap c || c == '\n'

/-- Whether a colon before a text ends a key. -/
def endsKey (inBrackets : Bool) (rest : List Char) : Bool :=
  startsGap rest || (inBrackets && rest.head?.any isBracketMark)

/-- Reads a text without quotes as far as it goes on its line: up to the colon behind a key, a comment,
or a mark in brackets. -/
def plainLine (inBrackets : Bool) : List Char → List Char × List Char
  | [] => ([], [])
  | c :: rest =>
    if c = '\n' || (c = ':' && endsKey inBrackets rest) || (inBrackets && isBracketMark c) ||
        (isGap c && (rest.dropWhile isGap).head? = some '#') then ([], c :: rest)
    else
      let (s, rest) := plainLine inBrackets rest
      (c :: s, rest)

/-- A text without the blanks at its end. -/
def trimGap (s : List Char) : List Char :=
  (s.reverse.dropWhile isGap).reverse

/-- Whether a text without quotes can begin here. -/
def startsPlain (inBrackets : Bool) : List Char → Bool
  | [] => false
  | c :: rest =>
    if c = '-' || c = '?' || c = ':' then !endsKey inBrackets rest
    else !(isBracketMark c || "#&*!|>'\"%@\x60".toList.contains c)

/-! ## Texts on several lines -/

/-- A blank or the end of a line. -/
def isGapOrEnd (c : Char) : Bool :=
  isGap c || c == '\n'

/-- What blanks and line ends inside a text stand for: one line end for a blank, and each further one
for itself. -/
def foldGap (gap : List Char) : List Char :=
  match gap.count '\n' with
  | 0 => gap
  | 1 => [' ']
  | count + 2 => List.replicate (count + 1) '\n'

/-- How far the text behind a gap is from the start of its line. -/
def columnAfter (gap : List Char) : Nat :=
  (gap.reverse.takeWhile (· ≠ '\n')).length

/-- Reads a text without quotes. It goes on with the lines that have at least `least` blanks before
them. The first argument bounds the number of lines. -/
def plain? (inBrackets : Bool) (least : Nat) : Nat → List Char → Option (List Char × List Char)
  | 0, _ => none
  | fuel + 1, s =>
    let (line, rest) := plainLine inBrackets s
    let line := trimGap line
    let gap := rest.takeWhile isGapOrEnd
    let next := rest.drop gap.length
    if !gap.contains '\n' || next.isEmpty || next.head? = some '#' || columnAfter gap < least ||
        (inBrackets && next.head?.any isBracketMark) then some (line, rest)
    else (plain? inBrackets least fuel next).map fun (more, rest) =>
      (line ++ foldGap gap ++ more, rest)

/-- The character that a letter after a backslash stands for. -/
def escape? : Char → Option Char
  | '0' => some '\x00'
  | 'a' => some '\x07'
  | 'b' => some '\x08'
  | 't' | '\t' => some '\t'
  | 'n' => some '\n'
  | 'v' => some '\x0b'
  | 'f' => some '\x0c'
  | 'r' => some '\r'
  | 'e' => some '\x1b'
  | ' ' => some ' '
  | '"' => some '"'
  | '\'' => some '\''
  | '/' => some '/'
  | '\\' => some '\\'
  | 'N' => some '\u0085'
  | '_' => some '\u00a0'
  | 'L' => some '\u2028'
  | 'P' => some '\u2029'
  | _ => none

/-- How many hexadecimal digits follow a letter after a backslash. -/
def hexLength (c : Char) : Nat :=
  if c = 'x' then 2 else if c = 'u' then 4 else if c = 'U' then 8 else 0

/-- Reads up to the closing quote. The first argument bounds the number of characters. -/
def quotedRest? (quote : Char) : Nat → List Char → Option (List Char × List Char)
  | 0, _ => none
  | _, [] => none
  | fuel + 1, c :: rest =>
    if c = '\'' && quote = '\'' && rest.head? = some '\'' then
      (quotedRest? quote fuel (rest.drop 1)).map fun (s, rest) => ('\'' :: s, rest)
    else if c = quote then some ([], rest)
    else if c = '\\' && quote = '"' then
      match rest with
      | '\n' :: rest => quotedRest? quote fuel (rest.dropWhile isGap)
      | e :: rest => do
        let count := hexLength e
        let digits := rest.take count
        let named := (numberIn? 16 digits).filter fun n =>
          decide n.isValidChar && digits.length = count
        let c ← if count = 0 then escape? e else named.map Char.ofNat
        (quotedRest? quote fuel (rest.drop count)).map fun (s, rest) => (c :: s, rest)
      | [] => none
    else if isGapOrEnd c then
      let gap := (c :: rest).takeWhile isGapOrEnd
      (quotedRest? quote fuel ((c :: rest).drop gap.length)).map fun (s, rest) =>
        (foldGap gap ++ s, rest)
    else (quotedRest? quote fuel rest).map fun (s, rest) => (c :: s, rest)

/-- Reads a text in quotes of either kind. -/
def quoted? : List Char → Option (List Char × List Char)
  | '"' :: s => quotedRest? '"' (s.length + 1) s
  | '\'' :: s => quotedRest? '\'' (s.length + 1) s
  | _ => none

/-! ## Texts on lines of their own -/

/-- What becomes of the line ends at the end of a text: one is kept, none, or all. -/
inductive Ending where
  | clip
  | strip
  | keep
deriving DecidableEq

/-- The marks behind the character that announces a text: what becomes of its end, and by how many
blanks its lines are set in. -/
def marks? : List Char → Option (Ending × Option Nat)
  | [] => some (.clip, none)
  | ['-'] => some (.strip, none)
  | ['+'] => some (.keep, none)
  | [c] => (numberIn? 10 [c]).filter (0 < ·) |>.map fun n => (.clip, some n)
  | ['-', c] | [c, '-'] => (numberIn? 10 [c]).filter (0 < ·) |>.map fun n => (.strip, some n)
  | ['+', c] | [c, '+'] => (numberIn? 10 [c]).filter (0 < ·) |>.map fun n => (.keep, some n)
  | _ => none

/-- The lines of a text and what follows them. Lines belong to it as long as they have at least
`least` blanks before them, or hold nothing else. -/
def blockLines (least : Nat) : Nat → List Char → List (List Char) × List Char
  | 0, s => ([], s)
  | fuel + 1, s =>
    let line := s.takeWhile (· ≠ '\n')
    let blanks := (line.takeWhile (· == ' ')).length
    if s.isEmpty || (blanks < least && blanks < line.length) then ([], s)
    else
      let (lines, rest) := blockLines least fuel ((s.drop line.length).drop 1)
      (line.drop least :: lines, rest)

/-- Lines put together. Where they are folded, one line end between two lines that are not set in
stands for a blank, and of several ones the first is left out. -/
def joinLines (folded : Bool) : List (List Char) → List Char
  | [] => []
  | [line] => line
  | line :: next :: rest =>
    let setIn (line : List Char) := line.head?.any isGap
    let joined := joinLines folded (next :: rest)
    if folded && !line.isEmpty && !setIn line then
      if next.isEmpty then
        match (next :: rest).dropWhile List.isEmpty with
        | [] => line ++ '\n' :: joined
        | later :: _ => if setIn later then line ++ '\n' :: joined else line ++ joined
      else if setIn next then line ++ '\n' :: joined
      else line ++ ' ' :: joined
    else line ++ '\n' :: joined

/-- Reads a text on lines of its own, behind the character that announces it. -/
def block? (folded : Bool) (least : Nat) (s : List Char) : Option (List Char × List Char) := do
  let header := s.takeWhile (· ≠ '\n')
  let (word, comment) := (header.takeWhile (!isGap ·), (header.dropWhile (!isGap ·)).dropWhile isGap)
  if !comment.isEmpty && comment.head? ≠ some '#' then none
  let (ending, given) ← marks? word
  let body := (s.drop header.length).drop 1
  let first := body.dropWhile isGapOrEnd
  let found := columnAfter ('\n' :: body.take (body.length - first.length))
  let indent := match given with
    | some n => (least - 1) + n
    | none => max least found
  let (lines, rest) := blockLines indent (body.length + 1) body
  let kept := (lines.reverse.dropWhile List.isEmpty).reverse
  let text := joinLines folded kept
  let tail := match ending with
    | .strip => []
    | .clip => if kept.isEmpty then [] else ['\n']
    | .keep =>
      List.replicate (lines.length - kept.length + (if kept.isEmpty then 0 else 1)) '\n'
  return (text ++ tail, rest)

end LogIntake.Yaml
