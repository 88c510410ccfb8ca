import LogIntake.Proofs.Timestamp.Writing
import LogIntake.Timestamp.Format
import Mathlib.Data.List.TakeWhile

/-!
# Written parts are scanned

Each part of a written date-time is read again, whatever follows it.

* `scanNumber_numeral`, `scanPart_padded`, `scanYear_padded`, `scanFraction_padded`: numbers.
* `AreTold`, **`scanName_written`**: names that are told from each other by their first letters.
* `scanHalf_written`: the half of the day.
-/

namespace LogIntake.Timestamp

open Calendar Text

variable {width n : Nat} {s rest : List Char}

/-! ## Numbers and names -/

theorem ok_bind {α β : Type} (a : α) (f : α → Except ScanError β) : (Except.ok a >>= f) = f a := rfl

theorem checkRange_eq_ok {least most n : Int} (hleast : least ≤ n) (hmost : n ≤ most) :
    checkRange least most n = .ok () := by
  simp [checkRange, hleast, hmost]

theorem scanNumber_numeral (h : IsNumeral width s) (hpos : 0 < width) (rest : List Char) :
    scanNumber (some width) (s ++ rest) = .ok (digitsValue s, rest) := by
  have hne : s ≠ [] := (h.isSolid hpos).1
  have hdigits : ((s ++ rest).take width).takeWhile isAsciiDigit = s := by
    rw [← h.length, List.take_left, List.takeWhile_eq_self_iff]
    exact h.digits
  simp [scanNumber, hdigits, hne]

/-- Two digits are scanned as their value, which has to lie between the bounds. -/
theorem scanPart_paddedDigits (least most : Nat) (h : n < 100) (rest : List Char) :
    scanPart least most (paddedDigits 2 n ++ rest) =
      (checkRange least most n).map fun _ => (n, rest) := by
  have hnumeral : IsNumeral 2 (paddedDigits 2 n) := isNumeral_paddedDigits (by decide) h
  have hsolid := hnumeral.isSolid (by decide)
  rw [scanPart, trimStart_append_of_solid hsolid.1 hsolid.2,
    scanNumber_numeral hnumeral (by decide), digitsValue_paddedDigits, ok_bind]
  dsimp only
  cases checkRange least most n <;> rfl

theorem scanPart_padded {least most : Nat} (h : n < 100) (hleast : least ≤ n) (hmost : n ≤ most)
    (rest : List Char) : scanPart least most (paddedDigits 2 n ++ rest) = .ok (n, rest) := by
  rw [scanPart_paddedDigits least most h,
    checkRange_eq_ok (Int.ofNat_le.mpr hleast) (Int.ofNat_le.mpr hmost)]
  rfl

theorem scanYear_padded (h : n < 10 ^ 4) (rest : List Char) :
    scanYear (trimStart (paddedDigits 4 n ++ rest)) = .ok ((n : Int), rest) := by
  have hnumeral : IsNumeral 4 (paddedDigits 4 n) := isNumeral_paddedDigits (by decide) h
  have hsolid := hnumeral.isSolid (by decide)
  have hscan := scanNumber_numeral hnumeral (by decide) rest
  rw [trimStart_append_of_solid hsolid.1 hsolid.2]
  rw [digitsValue_paddedDigits] at hscan
  obtain ⟨c, later, hs⟩ := List.exists_cons_of_ne_nil hsolid.1
  have hc : isAsciiDigit c = true := hnumeral.digits c (by rw [hs]; exact List.mem_cons_self)
  rw [hs, List.cons_append] at hscan ⊢
  -- a digit is neither of the signs
  have hminus : c ≠ '-' := by
    rintro rfl
    exact absurd hc (by decide)
  have hplus : c ≠ '+' := by
    rintro rfl
    exact absurd hc (by decide)
  unfold scanYear
  split
  · next heq => exact absurd (List.cons.inj heq).1 hminus
  · next heq => exact absurd (List.cons.inj heq).1 hplus
  · rw [hscan]
    rfl

theorem scanFraction_padded {digits : Nat} (hdigits : digits ≤ 9) (h : n < 10 ^ 9)
    (rest : List Char) : scanFraction digits ((paddedDigits 9 n).take digits ++ rest) =
      .ok (n / 10 ^ (9 - digits) * 10 ^ (9 - digits), rest) := by
  have hnumeral := (isNumeral_paddedDigits (by decide) h).take hdigits
  have htake : ((paddedDigits 9 n).take digits ++ rest).take digits =
      (paddedDigits 9 n).take digits := by
    rw [List.take_append_of_le_length (Nat.le_of_eq hnumeral.length.symm), List.take_take,
      Nat.min_self]
  have hread : ((paddedDigits 9 n).take digits).takeWhile isAsciiDigit =
      (paddedDigits 9 n).take digits := List.takeWhile_eq_self_iff.mpr hnumeral.digits
  have hdrop : ((paddedDigits 9 n).take digits ++ rest).drop digits = rest :=
    List.drop_left' hnumeral.length
  have hsize : ¬ Utf8.size ((paddedDigits 9 n).take digits ++ rest) < digits := by
    have := Utf8.length_le_size ((paddedDigits 9 n).take digits)
    rw [Utf8.size_append]
    rw [hnumeral.length] at this
    omega
  simp only [scanFraction, htake, hread, hdrop, if_neg hsize]
  rw [if_neg (by rw [hnumeral.length]; exact Nat.lt_irrefl _),
    digitsValue_take_paddedDigits (by decide) h]
  rfl

/-- The first three letters of a name, whatever their case. -/
def namePrefix (name : String) : List Char :=
  (name.toList.take 3).map asciiLower

/-- Names that are told from each other by their first three letters. -/
structure AreTold (names : List String) : Prop where
  length : ∀ name ∈ names, 3 ≤ name.toList.length
  nodup : (names.map namePrefix).Nodup

theorem findIdx?_namePrefix {names : List String} (h : (names.map namePrefix).Nodup)
    {index : Nat} (hindex : index < names.length) :
    (names.findIdx? fun name => namePrefix name == namePrefix names[index]) = some index := by
  rw [List.findIdx?_eq_some_iff_getElem]
  refine ⟨hindex, beq_self_eq_true _, fun j hj => ?_⟩
  rw [Bool.not_eq_true, beq_eq_false_iff_ne]
  have hne := List.pairwise_iff_getElem.mp h j index (by simpa using Nat.lt_trans hj hindex)
    (by simpa using hindex) hj
  simpa using hne

/-- A name that is written is found, whatever follows it. -/
theorem scanName_written {names : List String} (h : AreTold names) {index : Nat}
    (hindex : index < names.length) (long : Bool) (rest : List Char) :
    scanName names long (writeName names index long ++ rest) = .ok (index, rest) := by
  have hget : names.getD index "" = names[index] := by
    rw [List.getD_eq_getElem?_getD, List.getElem?_eq_getElem hindex, Option.getD_some]
  have hlen := h.length _ (List.getElem_mem hindex)
  have hfind := findIdx?_namePrefix h.nodup hindex
  generalize names[index] = name at hget hlen hfind
  have hthree : (name.toList.take 3).length = 3 := by
    rw [List.length_take]
    omega
  have hwritten : writeName names index long =
      name.toList.take 3 ++ if long then name.toList.drop 3 else [] := by
    unfold writeName
    rw [hget]
    cases long with
    | true => exact (List.take_append_drop 3 _).symm
    | false => exact (List.append_nil _).symm
  have hsize : ¬ Utf8.size (writeName names index long ++ rest) < 3 := by
    have := Utf8.length_le_size (name.toList.take 3)
    rw [hwritten, Utf8.size_append, Utf8.size_append]
    omega
  have htake : (writeName names index long ++ rest).take 3 = name.toList.take 3 := by
    rw [hwritten, List.append_assoc, List.take_left' hthree]
  have hdrop : (writeName names index long ++ rest).drop 3 =
      (if long then name.toList.drop 3 else []) ++ rest := by
    rw [hwritten, List.append_assoc, List.drop_left' hthree]
  have hnames : (names.findIdx? fun other =>
      (other.toList.take 3).map asciiLower == (name.toList.take 3).map asciiLower) = some index :=
    hfind
  simp only [scanName, if_neg hsize, htake, hdrop, hnames, hget]
  cases long with
  | false => rfl
  | true =>
    simp only [if_true, Bool.true_and, List.take_left, List.drop_left, beq_self_eq_true]

theorem areTold_monthNames : AreTold monthNames := ⟨by decide, by decide⟩

theorem areTold_weekdayNames : AreTold weekdayNames := ⟨by decide, by decide⟩

theorem scanHalf_written (hour : Nat) (h : hour < 24) (rest : List Char) :
    scanHalf ((if hour < 12 then ['A', 'M'] else ['P', 'M']) ++ rest) = .ok (hour / 12, rest) := by
  have hsize : ∀ c : Char, ¬ Utf8.size ([c, 'M'] ++ rest) < 2 := fun c => by
    have := Utf8.length_le_size [c, 'M']
    rw [Utf8.size_append]
    change 2 ≤ _ at this
    omega
  unfold scanHalf
  by_cases hhour : hour < 12
  · rw [if_pos hhour, if_neg (hsize 'A'), Nat.div_eq_of_lt hhour]
    rfl
  · rw [if_neg hhour, if_neg (hsize 'P'), show hour / 12 = 1 by omega]
    rfl

end LogIntake.Timestamp
