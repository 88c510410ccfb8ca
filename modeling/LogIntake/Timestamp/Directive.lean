import LogIntake.Timestamp.Pattern

/-!
# What the letters of a pattern stand for

* `Directive`: the parts of a date-time.
* `Directive.ofLetters?`: the part that a run of letters stands for.
* `Step`: what a reader does next; `Token.steps` turns a pattern into steps.
-/

namespace LogIntake.Timestamp

/-- A part of a date-time as it is read from a text. -/
inductive Directive where
  | year
  | yearOfCentury
  | month
  | monthName (long : Bool)
  | day
  | hour
  | hourOfHalf
  | half
  | minute
  | second
  | fraction (digits : Nat)
  | weekdayName (long : Bool)
  | offset
deriving DecidableEq, Repr

/-- The directive for a run of `count` times `letter`. An hour of the half day can be told apart only
where the pattern says which half it is, so without a mark for it the hour is read as it stands. -/
def Directive.ofLetters? (marksHalf : Bool) (letter : Char) (count : Nat) : Option Directive :=
  match letter with
  | 'y' => some (if count = 2 then .yearOfCentury else .year)
  | 'M' => some (if count ≤ 2 then .month else .monthName (count > 3))
  | 'd' => some .day
  | 'H' | 'k' => some .hour
  | 'h' | 'K' => some (if marksHalf then .hourOfHalf else .hour)
  | 'm' => some .minute
  | 's' => some .second
  | 'S' => some (.fraction (if count ≤ 3 then 3 else if count ≤ 6 then 6 else 9))
  | 'a' => some .half
  | 'E' => some (.weekdayName (count > 3))
  | 'Z' | 'X' => some .offset
  | _ => none

/-- What a reader of a timestamp does next: it expects a text, passes over white space, or reads a
part of the date-time. -/
inductive Step where
  | expect (text : List Char)
  | blanks
  | read (directive : Directive)
deriving DecidableEq, Repr

/-- Puts a character of a fixed text in front of steps. Characters that are no white space are
expected together, except that a percent sign is expected alone. -/
def consStep (c : Char) (steps : List Step) : List Step :=
  if Text.isBlank c then
    match steps with
    | .blanks :: _ => steps
    | _ => .blanks :: steps
  else
    match steps with
    | .expect text :: later =>
      if c = '%' || text.head? == some '%' then .expect [c] :: steps
      else .expect (c :: text) :: later
    | _ => .expect [c] :: steps

/-- The steps for a token, or the letter that stands for nothing. -/
def Token.steps (marksHalf : Bool) : Token → Except PatternError (List Step)
  | .letters letter count =>
    match Directive.ofLetters? marksHalf letter count with
    | some directive => .ok [.read directive]
    | none => .error (.unsupportedLetter letter)
  | .literal text => .ok (text.foldr consStep [])

end LogIntake.Timestamp
