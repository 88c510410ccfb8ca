import LogIntake.Text.CharClass

/-!
# Character classes that lie apart

* `inRanges_eq_false_of_apart`: a number in one table is not in another one whose ranges lie apart.
* `isBlank_of_isDecimalDigit`, `isCased_of_isBlank`: digits are no white space, which has no case.
-/

namespace LogIntake.Text

variable {n : Nat} {c : Char}

theorem exists_range_of_inRanges {ranges : List (Nat × Nat)} (h : inRanges ranges n = true) :
    ∃ r ∈ ranges, r.1 ≤ n ∧ n ≤ r.2 := by
  induction ranges with
  | nil => exact absurd h (by simp [inRanges])
  | cons r ranges ih =>
    rw [inRanges] at h
    split at h
    · exact absurd h (by decide)
    · next hfirst =>
      rw [Bool.or_eq_true, decide_eq_true_eq] at h
      rcases h with hlast | hlater
      · exact ⟨r, List.mem_cons_self, Nat.not_lt.mp hfirst, hlast⟩
      · obtain ⟨r', hr', hn⟩ := ih hlater
        exact ⟨r', List.mem_cons_of_mem _ hr', hn⟩

/-- **A number in one table is not in another one whose ranges lie apart.** -/
theorem inRanges_eq_false_of_apart (ranges others : List (Nat × Nat))
    (hapart : ∀ r ∈ ranges, ∀ o ∈ others, r.2 < o.1 ∨ o.2 < r.1) (h : inRanges ranges n = true) :
    inRanges others n = false := by
  rw [Bool.eq_false_iff]
  intro hother
  obtain ⟨r, hr, hleast, hmost⟩ := exists_range_of_inRanges h
  obtain ⟨o, ho, hleast', hmost'⟩ := exists_range_of_inRanges hother
  have := hapart r hr o ho
  omega

theorem isBlank_of_isDecimalDigit (h : isDecimalDigit c = true) : isBlank c = false :=
  inRanges_eq_false_of_apart decimalDigitRanges blankRanges (by decide +kernel) h

theorem isCased_of_isBlank (h : isBlank c = true) : isCased c = false :=
  inRanges_eq_false_of_apart blankRanges casedRanges (by decide +kernel) h

end LogIntake.Text
