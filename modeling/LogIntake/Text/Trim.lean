import LogIntake.Text.CharClass

/-!
# Trimming white space

* `trimStart`, `trimEnd`, `trim`: a text without the white space at its start, its end, or both.
* `isAllBlank`: a text of white space only, the empty one included.
-/

namespace LogIntake.Text

/-- The text from its first character on that is not white space. -/
def trimStart (s : List Char) : List Char :=
  s.dropWhile isBlank

/-- The text up to its last character that is not white space. -/
def trimEnd (s : List Char) : List Char :=
  (s.reverse.dropWhile isBlank).reverse

/-- The text between its first and its last character that is not white space. -/
def trim (s : List Char) : List Char :=
  trimEnd (trimStart s)

/-- A text that holds nothing but white space. -/
def isAllBlank (s : List Char) : Bool :=
  s.all isBlank

/-! ## Small facts -/

@[simp] theorem trim_nil : trim [] = [] := rfl

/-- Trimming leaves nothing exactly of a text of white space. -/
theorem trim_eq_nil_iff (s : List Char) : trim s = [] ↔ isAllBlank s = true := by
  have hd : ∀ l : List Char, l.dropWhile isBlank = [] ↔ ∀ c ∈ l, isBlank c = true := by
    intro l
    induction l with
    | nil => simp
    | cons c r ih => by_cases h : isBlank c = true <;> simp [h, ih]
  have hhead : ∀ l : List Char, (∀ c ∈ l.dropWhile isBlank, isBlank c = true) →
      l.dropWhile isBlank = [] := by
    intro l
    induction l with
    | nil => simp
    | cons c r ih =>
      by_cases h : isBlank c = true
      · simpa [List.dropWhile_cons, h] using ih
      · intro hall
        simp only [List.dropWhile_cons, h, Bool.false_eq_true, if_false] at hall
        exact absurd (hall c (by simp)) h
  have hback : trim s = [] ↔ ∀ c ∈ s.dropWhile isBlank, isBlank c = true := by
    simp only [trim, trimEnd, trimStart, List.reverse_eq_nil_iff, hd, List.mem_reverse]
  rw [hback, isAllBlank, List.all_eq_true]
  exact ⟨fun h => (hd s).1 (hhead s h), fun h c hc => h c (List.dropWhile_subset _ hc)⟩

end LogIntake.Text
