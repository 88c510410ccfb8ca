import LogIntake.Calendar.Display
import LogIntake.Timestamp.Scan
import Mathlib.Data.List.Induction
import Mathlib.Tactic.Ring

/-!
# Numbers of a fixed width

* `IsNumeral`: a text of so many decimal digits.
* `digitsValue_append`, `IsNumeral.value_lt`: the value of digits, and how large it can be.
* `isNumeral_paddedDigits`, `digitsValue_paddedDigits`: a number that is written with a fixed width.
* **`IsNumeral.eq_paddedDigits`**: digits are the written form of their value.
-/

namespace LogIntake.Timestamp

open Calendar Text

/-- A text of so many of the ten digits. -/
structure IsNumeral (width : Nat) (s : List Char) : Prop where
  length : s.length = width
  digits : ∀ c ∈ s, isAsciiDigit c = true

variable {width n : Nat} {s t : List Char} {c : Char}

/-! ## The value of digits -/

theorem digitsValue_append (s t : List Char) :
    digitsValue (s ++ t) = digitsValue s * 10 ^ t.length + digitsValue t := by
  induction t using List.reverseRecOn with
  | nil => simp [digitsValue]
  | append_singleton t c ih =>
    have hlast : ∀ u : List Char, digitsValue (u ++ [c]) = digitsValue u * 10 + digitValue c :=
      fun u => by simp [digitsValue]
    rw [← List.append_assoc, hlast, hlast, ih, List.length_append, List.length_singleton, pow_succ]
    ring

theorem digitsValue_singleton (c : Char) : digitsValue [c] = digitValue c := by
  simp [digitsValue]

theorem toNat_of_isAsciiDigit (h : isAsciiDigit c = true) : 48 ≤ c.toNat ∧ c.toNat ≤ 57 := by
  simpa [isAsciiDigit, Char.le_def, UInt32.le_iff_toNat_le] using h

theorem digitValue_lt (h : isAsciiDigit c = true) : digitValue c < 10 := by
  have hc := toNat_of_isAsciiDigit h
  change c.toNat - 48 < 10
  omega

theorem digitValue_injective {d : Char} (hc : isAsciiDigit c = true) (hd : isAsciiDigit d = true)
    (h : digitValue c = digitValue d) : c = d := by
  have hc' := toNat_of_isAsciiDigit hc
  have hd' := toNat_of_isAsciiDigit hd
  change c.toNat - 48 = d.toNat - 48 at h
  exact Char.toNat_inj.mp (by omega)

namespace IsNumeral

theorem cons_iff : IsNumeral (width + 1) (c :: s) ↔ isAsciiDigit c = true ∧ IsNumeral width s := by
  constructor
  · intro h
    have hall := List.forall_mem_cons.mp h.digits
    exact ⟨hall.1, Nat.succ.inj h.length, hall.2⟩
  · rintro ⟨hc, h⟩
    exact ⟨congrArg Nat.succ h.length, List.forall_mem_cons.mpr ⟨hc, h.digits⟩⟩

theorem take (h : IsNumeral width s) (hn : n ≤ width) : IsNumeral n (s.take n) :=
  ⟨by rw [List.length_take, h.length, Nat.min_eq_left hn],
    fun c hc => h.digits c (List.mem_of_mem_take hc)⟩

theorem drop (h : IsNumeral width s) : IsNumeral (width - n) (s.drop n) :=
  ⟨by rw [List.length_drop, h.length], fun c hc => h.digits c (List.mem_of_mem_drop hc)⟩

/-- The value of digits is less than the power of ten with their number. -/
theorem value_lt (h : IsNumeral width s) : digitsValue s < 10 ^ width := by
  induction s generalizing width with
  | nil =>
    rw [← h.length]
    decide
  | cons c s ih =>
    obtain rfl : s.length + 1 = width := h.length
    obtain ⟨hc, hs⟩ := cons_iff.mp h
    have hvalue : digitsValue (c :: s) = digitValue c * 10 ^ s.length + digitsValue s := by
      rw [← digitsValue_singleton c, ← digitsValue_append]
      rfl
    have hlt := ih hs
    have hle : digitValue c * 10 ^ s.length ≤ 9 * 10 ^ s.length :=
      Nat.mul_le_mul_right _ (Nat.le_of_lt_succ (digitValue_lt hc))
    rw [hvalue, pow_succ]
    omega

/-- Digits of one width are known from their value. -/
theorem eq_of_value_eq (hs : IsNumeral width s) (ht : IsNumeral width t)
    (h : digitsValue s = digitsValue t) : s = t := by
  induction s using List.reverseRecOn generalizing t width with
  | nil =>
    have := ht.length
    rw [← hs.length] at this
    exact (List.length_eq_zero_iff.mp this).symm
  | append_singleton s c ih =>
    have hlen : t.length = s.length + 1 := by
      rw [ht.length, ← hs.length, List.length_append, List.length_singleton]
    obtain rfl | ⟨t, d, rfl⟩ := t.eq_nil_or_concat
    · exact absurd hlen (by simp)
    rw [List.concat_eq_append] at ht hlen h ⊢
    rw [digitsValue_append, digitsValue_append, digitsValue_singleton, digitsValue_singleton,
      List.length_singleton, List.length_singleton, pow_one] at h
    have hc := hs.digits c (by simp)
    have hd := ht.digits d (by simp)
    have hltc := digitValue_lt hc
    have hltd := digitValue_lt hd
    obtain rfl := digitValue_injective hc hd (by omega)
    have hst : s = t := by
      refine ih ⟨rfl, fun a ha => hs.digits a (by simp [ha])⟩
        ⟨?_, fun a ha => ht.digits a (by simp [ha])⟩ (by omega)
      rw [List.length_append, List.length_singleton] at hlen
      exact Nat.succ.inj hlen
    rw [hst]

end IsNumeral

/-! ## Written numbers -/

theorem isAsciiDigit_of_isDigit (h : c.isDigit = true) : isAsciiDigit c = true := by
  simpa [Char.isDigit, isAsciiDigit, Char.le_def] using h

/-- A number with at most so many digits is written with exactly so many. -/
theorem isNumeral_paddedDigits (hpos : 0 < width) (h : n < 10 ^ width) :
    IsNumeral width (paddedDigits width n) := by
  have hlen : (Nat.toDigits 10 n).length ≤ width :=
    (Nat.length_toDigits_le_iff (by decide) hpos).mpr h
  refine ⟨?_, fun c hc => ?_⟩
  · rw [paddedDigits, fillLeft, List.length_append, List.length_replicate]
    omega
  · rcases List.mem_append.mp hc with hzero | hdigit
    · rw [List.eq_of_mem_replicate hzero]
      decide
    · exact isAsciiDigit_of_isDigit (Nat.isDigit_of_mem_toDigits (by decide) (by decide) hdigit)

theorem digitsValue_toDigits (n : Nat) : digitsValue (Nat.toDigits 10 n) = n := by
  have hvalue : ∀ s : List Char, digitsValue s = Nat.ofDigitChars 10 s 0 := fun s => by
    simp [digitsValue, Nat.ofDigitChars_eq_foldl, digitValue, Nat.mul_comm]
  rw [hvalue, Nat.ofDigitChars_ten_toDigits]

theorem digitsValue_paddedDigits (width n : Nat) : digitsValue (paddedDigits width n) = n := by
  have hzeros : ∀ k, digitsValue (List.replicate k '0') = 0 := fun k => by
    induction k with
    | zero => rfl
    | succ k ih =>
      rw [List.replicate_succ', digitsValue_append, ih]
      decide
  rw [paddedDigits, fillLeft, digitsValue_append, hzeros, digitsValue_toDigits]
  simp

/-- The first of the digits tell the quotient by a power of ten. -/
theorem digitsValue_take_paddedDigits {k : Nat} (hpos : 0 < width) (h : n < 10 ^ width) :
    digitsValue ((paddedDigits width n).take k) = n / 10 ^ (width - k) := by
  have hnumeral := isNumeral_paddedDigits hpos h
  have hlt := (hnumeral.drop (n := k)).value_lt
  have hlen := (hnumeral.drop (n := k)).length
  have hvalue := digitsValue_append ((paddedDigits width n).take k) ((paddedDigits width n).drop k)
  rw [List.take_append_drop, digitsValue_paddedDigits, hlen] at hvalue
  exact (Nat.div_eq_of_lt_le (by omega) (by rw [Nat.succ_mul]; omega)).symm

/-- **Digits are the written form of their value.** -/
theorem IsNumeral.eq_paddedDigits (h : IsNumeral width s) (hpos : 0 < width) :
    s = paddedDigits width (digitsValue s) :=
  h.eq_of_value_eq (isNumeral_paddedDigits hpos h.value_lt) (digitsValue_paddedDigits _ _).symm

end LogIntake.Timestamp
