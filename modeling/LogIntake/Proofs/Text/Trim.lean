import LogIntake.Text.Trim
import LogIntake.Text.Utf8
import Mathlib.Data.List.Basic

/-!
# Trimmed texts

* `trimStart_cons_of_not_blank`, `trimEnd_cons_of_not_blank`: a character that is no white space stays.
* `trimStart_append_cons`, `trimEnd_append_cons`: and so does what it shields from the end.
* `trim_eq_self`: a text with such characters at both ends; `getLast?_trim`: a trimmed text ends in one.
* **`trim_eq_trimStart_trimEnd`**: both ends can be trimmed in either order; `trim_trim`: once is enough.
* **`trim_append_append`**: a trimmed part of a text stays when the text is trimmed.
* `Utf8.size_append`, `Utf8.length_le_size`: the bytes of a text, counted part by part.
-/

namespace LogIntake.Text

variable {c : Char} {s t : List Char}

/-- No sign of the ASCII range is white space. -/
theorem isBlank_of_printable (hlow : 33 ≤ c.toNat) (hhigh : c.toNat ≤ 126) : isBlank c = false := by
  simp [isBlank, blankRanges, inRanges]
  omega

/-! ## The start -/

theorem trimStart_cons_of_blank (h : isBlank c = true) : trimStart (c :: s) = trimStart s :=
  List.dropWhile_cons_of_pos h

theorem trimStart_cons_of_not_blank (h : isBlank c = false) : trimStart (c :: s) = c :: s :=
  List.dropWhile_cons_of_neg (by simp [h])

theorem trimStart_trimStart (s : List Char) : trimStart (trimStart s) = trimStart s := by
  induction s with
  | nil => rfl
  | cons c s ih =>
    cases h : isBlank c with
    | true => rw [trimStart_cons_of_blank h, ih]
    | false => rw [trimStart_cons_of_not_blank h, trimStart_cons_of_not_blank h]

/-- A text whose first character is no white space. -/
theorem trimStart_append_of_solid (hs : s ≠ []) (h : ∀ c ∈ s, isBlank c = false) :
    trimStart (s ++ t) = s ++ t := by
  cases s with
  | nil => exact absurd rfl hs
  | cons c s => exact trimStart_cons_of_not_blank (h c List.mem_cons_self)

/-- What stands behind a character that is no white space is kept. -/
theorem trimStart_append_cons (s t : List Char) (h : isBlank c = false) :
    trimStart (s ++ c :: t) = trimStart s ++ c :: t := by
  induction s with
  | nil => exact trimStart_cons_of_not_blank h
  | cons d s ih =>
    cases hd : isBlank d with
    | true => rw [List.cons_append, trimStart_cons_of_blank hd, trimStart_cons_of_blank hd, ih]
    | false =>
      rw [List.cons_append, trimStart_cons_of_not_blank hd, trimStart_cons_of_not_blank hd,
        List.cons_append]

/-! ## The end -/

theorem trimEnd_append (s t : List Char) :
    trimEnd (s ++ t) = if (trimEnd t).isEmpty then trimEnd s else s ++ trimEnd t := by
  unfold trimEnd
  rw [List.reverse_append, List.dropWhile_append, List.isEmpty_reverse]
  split
  · rfl
  · rw [List.reverse_append, List.reverse_reverse]

theorem trimEnd_singleton_of_blank (h : isBlank c = true) : trimEnd [c] = [] := by
  simp [trimEnd, h]

theorem trimEnd_singleton_of_not_blank (h : isBlank c = false) : trimEnd [c] = [c] := by
  simp [trimEnd, h]

theorem trimEnd_cons_of_blank (h : isBlank c = true) :
    trimEnd (c :: s) = if (trimEnd s).isEmpty then [] else c :: trimEnd s := by
  rw [← List.singleton_append, trimEnd_append, trimEnd_singleton_of_blank h, List.singleton_append]

theorem trimEnd_cons_of_not_blank (h : isBlank c = false) : trimEnd (c :: s) = c :: trimEnd s := by
  rw [← List.singleton_append, trimEnd_append, trimEnd_singleton_of_not_blank h]
  split
  · next hempty => rw [List.isEmpty_iff.mp hempty]
  · rfl

theorem trimEnd_append_of_blank (h : ∀ c ∈ t, isBlank c = true) : trimEnd (s ++ t) = trimEnd s := by
  have ht : trimEnd t = [] := by
    induction t with
    | nil => rfl
    | cons c t ih =>
      obtain ⟨hc, hall⟩ := List.forall_mem_cons.mp h
      rw [trimEnd_cons_of_blank hc, ih hall]
      rfl
  rw [trimEnd_append, ht]
  rfl

/-- What stands in front of a character that is no white space is kept. -/
theorem trimEnd_append_cons (s t : List Char) (h : isBlank c = false) :
    trimEnd (s ++ c :: t) = s ++ c :: trimEnd t := by
  rw [trimEnd_append, trimEnd_cons_of_not_blank h]
  rfl

theorem trimEnd_append_of_solid (hs : s ≠ []) (h : ∀ c ∈ s, isBlank c = false) :
    trimEnd (s ++ t) = s ++ trimEnd t := by
  obtain ⟨front, c, rfl⟩ : ∃ front c, s = front ++ [c] :=
    ⟨_, _, (List.dropLast_append_getLast hs).symm⟩
  rw [List.append_assoc, List.append_assoc, List.singleton_append, List.singleton_append]
  exact trimEnd_append_cons front t (h c (by simp))

theorem trimEnd_eq_self (h : ∀ c ∈ s.getLast?, isBlank c = false) : trimEnd s = s := by
  obtain rfl | ⟨front, c, rfl⟩ := s.eq_nil_or_concat
  · rfl
  · rw [List.concat_eq_append] at h ⊢
    exact trimEnd_append_cons front [] (h c (by simp))

theorem trimEnd_prefix (s : List Char) : trimEnd s <+: s := by
  have hsuffix := List.dropWhile_suffix (l := s.reverse) isBlank
  rwa [← List.reverse_prefix, List.reverse_reverse] at hsuffix

/-! ## Both ends -/

/-- **Both ends can be trimmed in either order.** -/
theorem trim_eq_trimStart_trimEnd (s : List Char) : trim s = trimStart (trimEnd s) := by
  unfold trim
  induction s with
  | nil => rfl
  | cons c s ih =>
    cases h : isBlank c with
    | false =>
      rw [trimStart_cons_of_not_blank h, trimEnd_cons_of_not_blank h, trimStart_cons_of_not_blank h]
    | true =>
      rw [trimStart_cons_of_blank h, ih, trimEnd_cons_of_blank h]
      split
      · next hempty => rw [List.isEmpty_iff.mp hempty]
      · rw [trimStart_cons_of_blank h]

/-- The text has no white space at its ends. -/
def IsTrimmed (s : List Char) : Prop :=
  (∀ c ∈ s.head?, isBlank c = false) ∧ ∀ c ∈ s.getLast?, isBlank c = false

theorem trim_eq_self (h : IsTrimmed s) : trim s = s := by
  cases s with
  | nil => rfl
  | cons c s =>
    rw [trim, trimStart_cons_of_not_blank (h.1 c rfl)]
    exact trimEnd_eq_self h.2

/-- A trimmed text does not end in white space. -/
theorem getLast?_trim (h : c ∈ (trim s).getLast?) : isBlank c = false := by
  rw [trim, trimEnd, List.getLast?_reverse] at h
  have hhead := List.head?_dropWhile_not isBlank (trimStart s).reverse
  rwa [Option.mem_def.mp h] at hhead

/-- A trimmed text does not begin with white space. -/
theorem head?_trim (h : c ∈ (trim s).head?) : isBlank c = false := by
  rw [trim_eq_trimStart_trimEnd, trimStart] at h
  have hhead := List.head?_dropWhile_not isBlank (trimEnd s)
  rwa [Option.mem_def.mp h] at hhead

theorem trim_trim (s : List Char) : trim (trim s) = trim s :=
  trim_eq_self ⟨fun _ => head?_trim, fun _ => getLast?_trim⟩

theorem trim_subset (s : List Char) : trim s ⊆ s := fun _ hc =>
  List.dropWhile_subset _ (( trimEnd_prefix _).subset hc)

/-- What is taken away at the start is white space. -/
theorem exists_append_trimStart (s : List Char) :
    ∃ gap, (∀ c ∈ gap, isBlank c = true) ∧ s = gap ++ trimStart s :=
  ⟨s.takeWhile isBlank, fun c hc => List.all_eq_true.mp List.all_takeWhile c hc,
    List.takeWhile_append_dropWhile.symm⟩

/-- What is taken away at the end is white space. -/
theorem exists_trimEnd_append (s : List Char) :
    ∃ gap, (∀ c ∈ gap, isBlank c = true) ∧ s = trimEnd s ++ gap := by
  obtain ⟨gap, hgap, hs⟩ := exists_append_trimStart s.reverse
  refine ⟨gap.reverse, fun c hc => hgap c (List.mem_reverse.mp hc), ?_⟩
  rw [trimEnd, ← List.reverse_append, ← trimStart, ← hs, List.reverse_reverse]

/-- **A trimmed part of a text stays when the text is trimmed.** -/
theorem trim_append_append {part : List Char} (hpart : part ≠ []) (h : IsTrimmed part)
    (before after : List Char) :
    trim (before ++ part ++ after) = trimStart before ++ part ++ trimEnd after := by
  obtain ⟨first, rest, hfirst⟩ := List.exists_cons_of_ne_nil hpart
  obtain ⟨front, last, hlast⟩ : ∃ front last, part = front ++ [last] :=
    ⟨_, _, (List.dropLast_append_getLast hpart).symm⟩
  have hstart : trimStart (before ++ part ++ after) = trimStart before ++ part ++ after := by
    rw [hfirst, List.append_assoc, List.cons_append,
      trimStart_append_cons _ _ (h.1 first (by rw [hfirst]; rfl)), List.append_assoc, List.cons_append]
  rw [trim, hstart, hlast, ← List.append_assoc, List.append_assoc, List.singleton_append,
    trimEnd_append_cons _ _ (h.2 last (by simp [hlast])), List.append_assoc, List.append_assoc,
    List.append_assoc, List.singleton_append]

/-- A character that is no white space is kept. -/
theorem mem_trim (hc : isBlank c = false) (h : c ∈ s) : c ∈ trim s := by
  have hdrop : ∀ l : List Char, c ∈ l → c ∈ l.dropWhile isBlank := by
    intro l hl
    induction l with
    | nil => exact hl
    | cons d l ih =>
      cases hd : isBlank d with
      | false => rwa [List.dropWhile_cons_of_neg (by simp [hd])]
      | true =>
        rw [List.dropWhile_cons_of_pos hd]
        rcases List.mem_cons.mp hl with rfl | hl
        · exact absurd hd (by rw [hc]; decide)
        · exact ih hl
  exact List.mem_reverse.mpr (hdrop _ (List.mem_reverse.mpr (hdrop _ h)))

namespace Utf8

/-! ## Bytes -/

theorem foldl_utf8Size (s : List Char) (n : Nat) :
    s.foldl (fun n c => n + c.utf8Size) n = n + size s := by
  induction s generalizing n with
  | nil => rfl
  | cons c s ih => rw [size, List.foldl_cons, List.foldl_cons, ih, ih, Nat.zero_add, Nat.add_assoc]

theorem size_append (s t : List Char) : size (s ++ t) = size s + size t := by
  rw [size, List.foldl_append, foldl_utf8Size]
  rfl

theorem length_le_size (s : List Char) : s.length ≤ size s := by
  induction s with
  | nil => exact Nat.le_refl 0
  | cons c s ih =>
    have := c.utf8Size_pos
    rw [size, List.foldl_cons, foldl_utf8Size, List.length_cons]
    omega

end Utf8

end LogIntake.Text
