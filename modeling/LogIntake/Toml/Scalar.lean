import LogIntake.Calendar.Date
import LogIntake.Document.Value
import LogIntake.Text.Digits

/-!
# Single values

A reader takes the text and gives back what it has read with the rest of the text.

* `quoted?`: texts between quotes, on one line or on several.
* `scalar?`: numbers, truth values, dates and times.
-/

namespace LogIntake.Toml

open Document Text

/-- A control character other than the tab. -/
def isControl (c : Char) : Bool :=
  (c.toNat < 32 && c != '\t') || c.toNat == 127

/-! ## Texts -/

/-- The character that hexadecimal digits name. -/
def codePoint? (digits : List Char) : Option Char :=
  (numberIn? 16 digits).bind fun n => if n.isValidChar then some (Char.ofNat n) else none

/-- The character that a letter after a backslash stands for. -/
def escape? : Char → Option Char
  | 'b' => some '\x08'
  | 'e' => some '\x1b'
  | 't' => some '\t'
  | 'n' => some '\n'
  | 'f' => some '\x0c'
  | 'r' => some '\r'
  | '"' => some '"'
  | '\\' => some '\\'
  | _ => none

/-- Puts a character in front of a text that has been read. -/
def prepend (c : Char) (read : Option (List Char × List Char)) : Option (List Char × List Char) :=
  read.map fun (s, rest) => (c :: s, rest)

/-- Reads up to the closing double quote. -/
def basicText? : List Char → Option (List Char × List Char)
  | [] => none
  | '"' :: rest => some ([], rest)
  | '\\' :: 'x' :: a :: b :: rest =>
    (codePoint? [a, b]).bind (prepend · (basicText? rest))
  | '\\' :: 'u' :: a :: b :: c :: d :: rest =>
    (codePoint? [a, b, c, d]).bind (prepend · (basicText? rest))
  | '\\' :: 'U' :: a :: b :: c :: d :: e :: f :: g :: h :: rest =>
    (codePoint? [a, b, c, d, e, f, g, h]).bind (prepend · (basicText? rest))
  | '\\' :: c :: rest => (escape? c).bind (prepend · (basicText? rest))
  | c :: rest => if isControl c then none else prepend c (basicText? rest)

/-- Reads up to the closing single quote. -/
def literalText? : List Char → Option (List Char × List Char)
  | [] => none
  | '\'' :: rest => some ([], rest)
  | c :: rest => if isControl c then none else prepend c (literalText? rest)

/-- Where a reader of a text on several lines stands: in the text, after a backslash at the end of a
line, or in the blanks at the start of the lines after it. -/
inductive Margin where
  | inside
  | lineEnd
  | lineStart
deriving DecidableEq

/-- Reads up to three closing double quotes. One or two more of them belong to the text. -/
def basicLines? : Margin → List Char → Option (List Char × List Char)
  | _, [] => none
  | .lineEnd, '\r' :: '\n' :: rest => basicLines? .lineStart rest
  | .lineEnd, c :: rest =>
    if c = '\n' then basicLines? .lineStart rest
    else if isGap c then basicLines? .lineEnd rest
    else none
  | .lineStart, '\r' :: '\n' :: rest => basicLines? .lineStart rest
  | m, '"' :: '"' :: '"' :: rest =>
    match m, rest with
    | _, '"' :: '"' :: rest => some (['"', '"'], rest)
    | _, '"' :: rest => some (['"'], rest)
    | _, rest => some ([], rest)
  | _, '\\' :: 'x' :: a :: b :: rest =>
    (codePoint? [a, b]).bind (prepend · (basicLines? .inside rest))
  | _, '\\' :: 'u' :: a :: b :: c :: d :: rest =>
    (codePoint? [a, b, c, d]).bind (prepend · (basicLines? .inside rest))
  | _, '\\' :: 'U' :: a :: b :: c :: d :: e :: f :: g :: h :: rest =>
    (codePoint? [a, b, c, d, e, f, g, h]).bind (prepend · (basicLines? .inside rest))
  | _, '\\' :: c :: rest =>
    if c = '\n' then basicLines? .lineStart rest
    else if isGap c || c = '\r' then
      if c = '\r' && rest.head? ≠ some '\n' then none
      else basicLines? (if c = '\r' then .lineStart else .lineEnd) rest
    else (escape? c).bind (prepend · (basicLines? .inside rest))
  | m, '\r' :: '\n' :: rest =>
    if m = .lineStart then basicLines? .lineStart rest
    else prepend '\r' (prepend '\n' (basicLines? .inside rest))
  | m, c :: rest =>
    if m = .lineStart && (isGap c || c = '\n') then basicLines? .lineStart rest
    else if isControl c && c ≠ '\n' then none
    else prepend c (basicLines? .inside rest)

/-- Reads up to three closing single quotes. One or two more of them belong to the text. -/
def literalLines? : List Char → Option (List Char × List Char)
  | [] => none
  | '\'' :: '\'' :: '\'' :: '\'' :: '\'' :: rest => some (['\'', '\''], rest)
  | '\'' :: '\'' :: '\'' :: '\'' :: rest => some (['\''], rest)
  | '\'' :: '\'' :: '\'' :: rest => some ([], rest)
  | '\r' :: '\n' :: rest => prepend '\r' (prepend '\n' (literalLines? rest))
  | c :: rest => if isControl c && c ≠ '\n' then none else prepend c (literalLines? rest)

/-- The text after a line end that comes at once. -/
def dropLineEnd : List Char → List Char
  | '\r' :: '\n' :: rest => rest
  | '\n' :: rest => rest
  | s => s

/-- Reads a text in quotes on one line. -/
def quotedLine? : List Char → Option (List Char × List Char)
  | '"' :: rest => basicText? rest
  | '\'' :: rest => literalText? rest
  | _ => none

/-- Reads a text in quotes. -/
def quoted? : List Char → Option (List Char × List Char)
  | '"' :: '"' :: '"' :: rest => basicLines? .inside (dropLineEnd rest)
  | '\'' :: '\'' :: '\'' :: rest => literalLines? (dropLineEnd rest)
  | s => quotedLine? s

/-! ## Numbers -/

/-- Digits in a base without the underscores between them, of which each stands between digits. -/
def plainDigits? (base : Nat) : List Char → Option (List Char)
  | [] => none
  | [c] => (digitIn? base c).map fun _ => [c]
  | c :: '_' :: rest =>
    if (digitIn? base c).isSome then (plainDigits? base rest).map (c :: ·) else none
  | c :: rest => if (digitIn? base c).isSome then (plainDigits? base rest).map (c :: ·) else none

/-- The digits of a whole number, which does not begin with a zero unless it is zero. -/
def wholeDigits? (s : List Char) : Option (List Char) :=
  (plainDigits? 10 s).filter fun digits => digits.length = 1 || digits.head? ≠ some '0'

/-- A whole number of 64 bits. -/
def integer? (s : List Char) : Option Int := do
  let n : Int ← match s with
    | '0' :: 'x' :: rest => ((plainDigits? 16 rest).bind (numberIn? 16)).map Int.ofNat
    | '0' :: 'o' :: rest => ((plainDigits? 8 rest).bind (numberIn? 8)).map Int.ofNat
    | '0' :: 'b' :: rest => ((plainDigits? 2 rest).bind (numberIn? 2)).map Int.ofNat
    | _ =>
      let (negative, rest) := sign s
      ((wholeDigits? rest).bind (numberIn? 10)).map fun n => if negative then -n else n
  if fits64 n then return n else none

/-- A number with a fraction or an exponent, the nearest one of double precision, unless it is too
great. -/
def real? (s : List Char) : Option Double := do
  let (negative, s) := sign s
  if s = "inf".toList then return .infinite negative
  if s = "nan".toList then return .notANumber
  let mantissa := s.takeWhile fun c => c != 'e' && c != 'E'
  let exponent ← match s.drop mantissa.length with
    | [] => some 0
    | _ :: e =>
      let (negative, e) := sign e
      ((plainDigits? 10 e).bind (numberIn? 10)).map fun n => if negative then -(n : Int) else n
  let whole := mantissa.takeWhile (· != '.')
  let wholeDigits ← wholeDigits? whole
  let fraction ← match mantissa.drop whole.length with
    | [] => some []
    | _ :: f => plainDigits? 10 f
  if fraction.isEmpty && mantissa.length = s.length then none
  else
    let digits ← numberIn? 10 (wholeDigits ++ fraction)
    Double.ofDecimal? negative ⟨digits, exponent - fraction.length⟩

/-! ## Dates and times -/

/-- A number of exactly so many digits. -/
def fixedDigits? (count : Nat) (s : List Char) : Option (Nat × List Char) :=
  let digits := s.take count
  if digits.length = count && digits.all isAsciiDigit then
    (numberIn? 10 digits).map fun n => (n, s.drop count)
  else none

/-- Drops a character that must come next. -/
def expect? (c : Char) : List Char → Option (List Char)
  | d :: rest => if d = c then some rest else none
  | [] => none

/-- Reads a date, which must exist. -/
def date? (s : List Char) : Option (List Char × List Char) := do
  let (year, rest) ← fixedDigits? 4 s
  let rest ← expect? '-' rest
  let (month, rest) ← fixedDigits? 2 rest
  let rest ← expect? '-' rest
  let (day, rest) ← fixedDigits? 2 rest
  if (Calendar.Date.mk year month day).isValid then return (s.take 10, rest) else none

/-- Digits of a fraction without zeros at their end, of which one at least stays. -/
def trimFraction (digits : List Char) : List Char :=
  let kept := (digits.reverse.dropWhile (· == '0')).reverse
  if kept.isEmpty then ['0'] else kept

/-- Reads the seconds of a time. Of their fraction nine digits count. -/
def seconds? (s : List Char) : Option (List Char × List Char) := do
  let (second, rest) ← fixedDigits? 2 s
  if second > 60 then none
  match rest with
  | '.' :: more =>
    let digits := more.takeWhile isAsciiDigit
    if digits.isEmpty then none
    return (s.take 2 ++ '.' :: trimFraction (digits.take 9), more.drop digits.length)
  | _ => return (s.take 2, rest)

/-- Reads a time of day, which may be without seconds. -/
def time? (s : List Char) : Option (List Char × List Char) := do
  let (hour, rest) ← fixedDigits? 2 s
  let rest ← expect? ':' rest
  let (minute, rest) ← fixedDigits? 2 rest
  if hour > 23 || minute > 59 then none
  match rest with
  | ':' :: more =>
    let (second, rest) ← seconds? more
    return (s.take 5 ++ ':' :: second, rest)
  | _ => return (s.take 5, rest)

/-- Reads an offset from universal time, of a day at most. None at all has a plus sign. -/
def offset? : List Char → Option (List Char × List Char)
  | 'Z' :: rest | 'z' :: rest => some (['Z'], rest)
  | sign :: s => do
    if sign ≠ '+' && sign ≠ '-' then none
    let (hour, rest) ← fixedDigits? 2 s
    let rest ← expect? ':' rest
    let (minute, rest) ← fixedDigits? 2 rest
    let size := 60 * hour + minute
    if minute > 59 || size > 24 * 60 then none
    return ((if size = 0 then '+' else sign) :: s.take 5, rest)
  | [] => none

/-- Reads a time, or a date that a time and an offset may follow. -/
def dateTime? (s : List Char) : Option (List Char × List Char) :=
  match date? s with
  | none => time? s
  | some (date, rest) =>
    let timed := match rest with
      | 'T' :: more | 't' :: more => some (time? more)
      | ' ' :: more => if (more.head?.any isAsciiDigit) then some (time? more) else none
      | _ => none
    match timed with
    | none => some (date, rest)
    | some none => none
    | some (some (time, rest)) =>
      match offset? rest with
      | some (offset, rest) => some (date ++ 'T' :: time ++ offset, rest)
      | none => some (date ++ 'T' :: time, rest)

/-! ## Values without parts -/

/-- A character of a word or a number. -/
def isWordPart (c : Char) : Bool :=
  isAsciiLetter c || isAsciiDigit c || c == '+' || c == '-' || c == '_' || c == '.' || c == ':'

/-- Reads a truth value, a number, or a date with or without a time, which counts as a text. -/
def scalar? (s : List Char) : Option (Value × List Char) :=
  match dateTime? s with
  | some (text, rest) =>
    if rest.head?.any isWordPart then none else some (.text (String.ofList text), rest)
  | none =>
    let word := s.takeWhile isWordPart
    let rest := s.drop word.length
    if word = "true".toList then some (.boolean true, rest)
    else if word = "false".toList then some (.boolean false, rest)
    else
      match integer? word, real? word with
      | some n, _ => some (.integer n, rest)
      | none, some d => some (.real d, rest)
      | none, none => none

end LogIntake.Toml
