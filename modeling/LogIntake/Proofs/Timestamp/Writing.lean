import LogIntake.Proofs.Calendar.Days
import LogIntake.Proofs.Text.Trim
import LogIntake.Proofs.Timestamp.Digits

/-!
# Written timestamps

* `writeLetters`: what a run of letters shows of a date-time, `write`: a date-time written along the
  tokens of a pattern.
* `IsWritable`: a civil date-time whose year has four digits at most.
* **`isSolid_writeLetters`**: what a run shows is never empty and has no white space.
-/

namespace LogIntake.Timestamp

open Calendar Text

/-- A name, or its first three letters. -/
def writeName (names : List String) (index : Nat) (long : Bool) : List Char :=
  let name := (names.getD index "").toList
  if long then name else name.take 3

/-- The number of digits of a fraction that stands for so many letters. -/
def fractionDigits (count : Nat) : Nat :=
  if count ≤ 3 then 3 else if count ≤ 6 then 6 else 9

/-- What a run of `count` times a letter shows of a date-time: a number with leading zeros, or an
English name. -/
def writeLetters (t : DateTime) (count : Nat) : Char → List Char
  | 'y' =>
    if count = 2 then paddedDigits 2 (t.date.year.toNat % 100)
    else paddedDigits 4 t.date.year.toNat
  | 'M' =>
    if count ≤ 2 then paddedDigits 2 t.date.month
    else writeName monthNames (t.date.month - 1) (count > 3)
  | 'd' => paddedDigits 2 t.date.day
  | 'E' => writeName weekdayNames t.date.weekday.val (count > 3)
  | 'H' => paddedDigits 2 t.hour
  | 'h' => paddedDigits 2 ((t.hour + 11) % 12 + 1)
  | 'a' => if t.hour < 12 then ['A', 'M'] else ['P', 'M']
  | 'm' => paddedDigits 2 t.minute
  | 's' => paddedDigits 2 t.second
  | 'S' => (paddedDigits 9 t.nanosecond).take (fractionDigits count)
  | _ => []

/-- The letters that show a part of a date-time without an offset. -/
def writtenLetters : List Char := ['y', 'M', 'd', 'E', 'H', 'h', 'a', 'm', 's', 'S']

/-- What a token shows of a date-time; a fixed text shows itself. -/
def Token.write (t : DateTime) : Token → List Char
  | .letters letter count => writeLetters t count letter
  | .literal text => text

/-- A date-time written along tokens. -/
def write (t : DateTime) (tokens : List Token) : List Char :=
  tokens.flatMap (Token.write t)

/-- A civil date-time whose year has four digits at most. -/
structure IsWritable (t : DateTime) : Prop where
  civil : t.IsCivil
  year_nonneg : 0 ≤ t.date.year
  year_le : t.date.year ≤ 9999

/-- The date-time with a fraction of only so many digits. -/
def shorten (digits : Nat) (t : DateTime) : DateTime :=
  { t with nanosecond := t.nanosecond / 10 ^ (9 - digits) * 10 ^ (9 - digits) }

variable {t : DateTime} {count : Nat} {letter : Char} {c : Char} {s : List Char}

theorem fractionDigits_bounds (count : Nat) : 3 ≤ fractionDigits count ∧ fractionDigits count ≤ 9 := by
  unfold fractionDigits
  repeat' split
  all_goals decide

/-! ## White space in written parts -/

theorem isBlank_of_isAsciiDigit (h : isAsciiDigit c = true) : isBlank c = false := by
  have hc := toNat_of_isAsciiDigit h
  exact isBlank_of_printable (by omega) (by omega)

/-- A text that is not empty and has no white space. -/
def IsSolid (s : List Char) : Prop :=
  s ≠ [] ∧ ∀ c ∈ s, isBlank c = false

instance : DecidablePred IsSolid := fun s =>
  decidable_of_iff (s ≠ [] ∧ s.any isBlank = false) (by simp [IsSolid])

theorem IsNumeral.isSolid {width : Nat} (h : IsNumeral width s) (hpos : 0 < width) : IsSolid s := by
  refine ⟨?_, fun c hc => isBlank_of_isAsciiDigit (h.digits c hc)⟩
  rintro rfl
  exact absurd h.length (Nat.ne_of_lt hpos)

theorem isSolid_paddedDigits_two {n : Nat} (h : n < 100) : IsSolid (paddedDigits 2 n) :=
  (isNumeral_paddedDigits (by decide) h).isSolid (by decide)

theorem isSolid_writeName {names : List String} (h : ∀ name ∈ names, IsSolid name.toList)
    {index : Nat} (hindex : index < names.length) (long : Bool) :
    IsSolid (writeName names index long) := by
  have hname := h (names.getD index "") (by
    rw [List.getD_eq_getElem?_getD, List.getElem?_eq_getElem hindex]
    exact List.getElem_mem hindex)
  cases long with
  | true => exact hname
  | false =>
    refine ⟨?_, fun c hc => hname.2 c (List.mem_of_mem_take hc)⟩
    simpa [writeName] using hname.1

namespace IsWritable

theorem epoch : IsWritable ⟨⟨1970, 1, 1⟩, 0, 0, 0, 0⟩ :=
  ⟨by decide, by decide, by decide⟩

theorem month_index (h : IsWritable t) : t.date.month - 1 < monthNames.length := by
  have := h.civil.exists_date.month_pos
  have := h.civil.exists_date.month_le
  change t.date.month - 1 < 12
  omega

theorem day_le (h : IsWritable t) : t.date.day ≤ 31 := by
  refine Nat.le_trans h.civil.exists_date.day_le ?_
  unfold daysInMonth
  repeat' split
  all_goals decide

theorem year_lt (h : IsWritable t) : t.date.year.toNat < 10 ^ 4 := by
  have := h.year_le
  omega

/-- What a run of letters shows is not empty and has no white space. -/
theorem isSolid_writeLetters (h : IsWritable t) (count : Nat) (hletter : letter ∈ writtenLetters) :
    IsSolid (writeLetters t count letter) := by
  have hmonth := h.civil.exists_date.month_le
  have hday := h.day_le
  have hhour := h.civil.hour
  have hminute := h.civil.minute
  have hsecond := h.civil.second
  simp only [writtenLetters, List.mem_cons, List.not_mem_nil, or_false] at hletter
  rcases hletter with rfl | rfl | rfl | rfl | rfl | rfl | rfl | rfl | rfl | rfl <;>
    simp only [writeLetters]
  · split
    · exact isSolid_paddedDigits_two (Nat.mod_lt _ (by decide))
    · exact (isNumeral_paddedDigits (by decide) h.year_lt).isSolid (by decide)
  · split
    · exact isSolid_paddedDigits_two (by omega)
    · exact isSolid_writeName (by decide) h.month_index _
  · exact isSolid_paddedDigits_two (by omega)
  · exact isSolid_writeName (by decide) t.date.weekday.isLt _
  · exact isSolid_paddedDigits_two (by omega)
  · exact isSolid_paddedDigits_two (by omega)
  · split <;> decide
  · exact isSolid_paddedDigits_two (by omega)
  · exact isSolid_paddedDigits_two (by omega)
  · obtain ⟨hpos, hle⟩ := fractionDigits_bounds count
    exact ((isNumeral_paddedDigits (by decide) h.civil.nanosecond).take (by omega)).isSolid
      (by omega)

end IsWritable

end LogIntake.Timestamp
