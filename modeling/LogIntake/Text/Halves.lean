/-!
# Cutting a text in two

* `splitFirst?`, `splitLast?`: the text before and after the first or the last occurrence of a
  character.
* `splitAtText?`: the text before and after the first occurrence of another text.
-/

namespace LogIntake.Text

/-- The text before and after the first occurrence of a character. -/
def splitFirst? (sep : Char) : List Char → Option (List Char × List Char)
  | [] => none
  | c :: rest =>
    if c = sep then some ([], rest)
    else (splitFirst? sep rest).map fun (before, after) => (c :: before, after)

/-- The text before and after the last occurrence of a character. -/
def splitLast? (sep : Char) : List Char → Option (List Char × List Char)
  | [] => none
  | c :: rest =>
    match splitLast? sep rest with
    | some (before, after) => some (c :: before, after)
    | none => if c = sep then some ([], rest) else none

/-- The text before and after the first occurrence of another text. -/
def splitAtText? (sep : List Char) : List Char → Option (List Char × List Char)
  | [] => if sep.isEmpty then some ([], []) else none
  | c :: rest =>
    if sep.isPrefixOf (c :: rest) then some ([], (c :: rest).drop sep.length)
    else (splitAtText? sep rest).map fun (before, after) => (c :: before, after)

/-! ## Small facts -/

/-- Nothing is lost, and the first part is free of the character. -/
theorem splitFirst?_eq_some {sep : Char} {s before after : List Char}
    (h : splitFirst? sep s = some (before, after)) :
    s = before ++ sep :: after ∧ sep ∉ before := by
  induction s generalizing before with
  | nil => simp [splitFirst?] at h
  | cons c rest ih =>
    unfold splitFirst? at h
    split at h
    · next hc => subst hc; simp at h; simp [h]
    · next hc =>
      simp only [Option.map_eq_some_iff, Prod.mk.injEq, Prod.exists] at h
      obtain ⟨b, a, hs, rfl, rfl⟩ := h
      have := ih hs
      refine ⟨by simp [← this.1], ?_⟩
      simp [this.2, Ne.symm hc]

/-- Only a text without the character cannot be cut. -/
theorem not_mem_of_splitLast?_eq_none {sep : Char} {s : List Char} (h : splitLast? sep s = none) :
    sep ∉ s := by
  induction s with
  | nil => simp
  | cons c rest ih =>
    unfold splitLast? at h
    split at h
    · simp at h
    · next hs =>
      split at h
      · simp at h
      · next hc => simp [ih hs, Ne.symm hc]

/-- Nothing is lost, and the second part is free of the character. -/
theorem splitLast?_eq_some {sep : Char} {s before after : List Char}
    (h : splitLast? sep s = some (before, after)) :
    s = before ++ sep :: after ∧ sep ∉ after := by
  induction s generalizing before with
  | nil => simp [splitLast?] at h
  | cons c rest ih =>
    unfold splitLast? at h
    split at h
    · next b a hs =>
      simp only [Option.some.injEq, Prod.mk.injEq] at h
      obtain ⟨rfl, rfl⟩ := h
      have := ih hs
      exact ⟨by simp [← this.1], this.2⟩
    · next hs =>
      split at h
      · next hc =>
        simp only [Option.some.injEq, Prod.mk.injEq] at h
        obtain ⟨rfl, rfl⟩ := h
        exact ⟨by simp [hc], not_mem_of_splitLast?_eq_none hs⟩
      · simp at h

end LogIntake.Text
