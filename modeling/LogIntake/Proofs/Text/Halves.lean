import LogIntake.Text.Halves
import Mathlib.Data.List.Infix

/-!
# Texts cut in two

* `splitFirst?_append`, `splitLast?_append`: a text is cut at its first or last separator.
* `splitFirst?_of_not_mem`, `splitLast?_of_not_mem`: a text without the separator is not cut;
  `not_mem_of_splitFirst?_eq_none`: only such a text is not.
* **`splitAtText?_append`**: a text is cut at the first occurrence of another text that does not
  overlap with itself.
* `splitAtText?_eq_some`: nothing is lost where a text is cut.
* `takeWhile_append_of_not_mem`: a text up to a separator.
-/

namespace LogIntake.Text

variable {sep first : Char} {before after later s : List Char}

theorem splitFirst?_append (h : sep ∉ before) :
    splitFirst? sep (before ++ sep :: after) = some (before, after) := by
  induction before with
  | nil => simp [splitFirst?]
  | cons c before ih =>
    rw [List.mem_cons, not_or] at h
    rw [List.cons_append, splitFirst?, if_neg (Ne.symm h.1), ih h.2]
    rfl

theorem splitFirst?_of_not_mem (h : sep ∉ s) : splitFirst? sep s = none := by
  cases hsplit : splitFirst? sep s with
  | none => rfl
  | some halves =>
    rw [(splitFirst?_eq_some hsplit).1] at h
    exact absurd (by simp) h

theorem not_mem_of_splitFirst?_eq_none (h : splitFirst? sep s = none) : sep ∉ s := by
  intro hmem
  obtain ⟨before, after, rfl, hfree⟩ := List.eq_append_cons_of_mem hmem
  rw [splitFirst?_append hfree] at h
  cases h

theorem splitLast?_of_not_mem (h : sep ∉ s) : splitLast? sep s = none := by
  cases hsplit : splitLast? sep s with
  | none => rfl
  | some halves =>
    rw [(splitLast?_eq_some hsplit).1] at h
    exact absurd (by simp) h

theorem splitLast?_append (h : sep ∉ after) :
    splitLast? sep (before ++ sep :: after) = some (before, after) := by
  induction before with
  | nil => simp [splitLast?, splitLast?_of_not_mem h]
  | cons c before ih => rw [List.cons_append, splitLast?, ih]

/-- **A text is cut at the first occurrence of another text**, whose first character does not occur in
it again. -/
theorem splitAtText?_append (honce : first ∉ later) (hfree : ¬ (first :: later) <:+: before) :
    splitAtText? (first :: later) (before ++ (first :: later ++ after)) = some (before, after) := by
  induction before with
  | nil =>
    have hprefix : (first :: later).isPrefixOf (first :: (later ++ after)) = true :=
      List.isPrefixOf_iff_prefix.mpr ⟨after, rfl⟩
    rw [List.nil_append, List.cons_append, splitAtText?, if_pos hprefix, ← List.cons_append,
      List.drop_left]
  | cons c before ih =>
    have hnot : ¬ (first :: later).isPrefixOf (c :: (before ++ (first :: later ++ after))) = true := by
      rw [List.isPrefixOf_iff_prefix]
      rintro ⟨rest, hrest⟩
      rcases List.append_eq_append_iff.mp (hrest.trans (List.cons_append ..).symm) with
        ⟨more, hmore, -⟩ | ⟨more, hmore, hlater⟩
      · exact hfree ⟨[], more, by simpa using hmore.symm⟩
      · cases more with
        | nil => exact hfree ⟨[], [], by simpa using hmore⟩
        | cons d more =>
          -- this occurrence would begin in `before` and end behind it
          obtain rfl : first = d := (List.cons.inj hlater).1
          exact honce (by rw [(List.cons.inj hmore).2]; simp)
    rw [List.cons_append, splitAtText?, if_neg hnot,
      ih fun h => hfree (h.trans (List.suffix_cons c before).isInfix)]
    rfl

/-- Nothing is lost where a text is cut. -/
theorem splitAtText?_eq_some {sep : List Char} (h : splitAtText? sep s = some (before, after)) :
    s = before ++ (sep ++ after) := by
  induction s generalizing before with
  | nil =>
    rw [splitAtText?] at h
    split at h
    · next hempty =>
      cases h
      rw [List.isEmpty_iff.mp hempty]
      rfl
    · cases h
  | cons c rest ih =>
    rw [splitAtText?] at h
    split at h
    · next hprefix =>
      cases h
      exact List.prefix_iff_eq_append.mp (List.isPrefixOf_iff_prefix.mp hprefix) |>.symm
    · obtain ⟨⟨front, back⟩, hsplit, heq⟩ := Option.map_eq_some_iff.mp h
      cases heq
      rw [ih hsplit, List.cons_append]

/-- A part without the separator stands in front of all separators. -/
theorem takeWhile_append_of_not_mem (h : sep ∉ before) :
    (before ++ s).takeWhile (· != sep) = before ++ s.takeWhile (· != sep) :=
  List.takeWhile_append_of_pos fun _ hc => bne_iff_ne.mpr (ne_of_mem_of_not_mem hc h)

end LogIntake.Text
