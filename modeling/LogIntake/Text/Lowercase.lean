import LogIntake.Text.CharClass

/-!
# Small letters

* `smallLetter`: the small letters that stand for one character.
* `lowercase`: a text in small letters, with the two shapes of the small sigma told apart.
-/

namespace LogIntake.Text

/-- The small letter at `n` after the table of capital letters, or `n` itself. -/
def smallLetterCode : List (Nat × Nat × Nat × Int) → Nat → Nat
  | [], n => n
  | (first, last, step, distance) :: rest, n =>
    if n < first then n
    else if n ≤ last && (n - first) % step == 0 then (n + distance).toNat
    else smallLetterCode rest n

/-- The small letters of one character. One capital letter, the dotted capital I, has two. -/
def smallLetter (c : Char) : List Char :=
  if c = 'İ' then ['i', '\u0307'] else [Char.ofNat (smallLetterCode lowercaseSteps c.toNat)]

/-- Whether the next letter, passing over ignorable characters, has a case. -/
def casedAhead (rest : List Char) : Bool :=
  match rest.dropWhile isCaseIgnorable with
  | [] => false
  | c :: _ => isCased c

/-- The text in small letters, where `behind` says whether the letter before it has a case. The
capital sigma becomes the final small sigma at the end of a word. -/
def lowercaseFrom (behind : Bool) : List Char → List Char
  | [] => []
  | c :: rest =>
    (if c = 'Σ' then [if behind && !casedAhead rest then 'ς' else 'σ'] else smallLetter c) ++
      lowercaseFrom (if isCaseIgnorable c then behind else isCased c) rest

/-- The text in small letters. -/
def lowercase (s : List Char) : List Char :=
  lowercaseFrom false s

end LogIntake.Text
