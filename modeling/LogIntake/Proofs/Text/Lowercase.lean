import LogIntake.Text.Lowercase
import Mathlib.Data.List.Infix

/-!
# Small letters and the ends of words

Of all letters only the capital sigma looks at its neighbours: its small letter has a shape of its own at
the end of a word.

* `endsWord`: whether a letter between two texts ends a word.
* `lowercaseWithin`: the small letters of a text that stands between two others;
  **`lowercase_append_append`**: the small letters of the whole hold them.
* `KeepsSigmas`: the capital sigmas of a text end words between two others as they do on their own;
  `lowercaseWithin_eq_lowercase`: then the text has its own small letters there;
  `keepsSigmas_of_not_all`: those inside a text always do.
* `StandsApart`: no letter next to a part of a text has a case.
* **`lowercase_infix_of_keepsSigmas`**: what has its own small letters in a part that stands apart has
  them in the whole.
* `EndsMore`: more capital sigmas of a text end words between two texts than between two others;
  `EndsMore.count_lt`: then it has more final sigmas there.
* **`exists_not_infix`**: a sigma that does not keep its shape everywhere is shown by a text.
-/

namespace LogIntake.Text

variable {c : Char} {s t before after before' after' front back : List Char}

/-! ## The next letter -/

theorem casedAhead_cons (c : Char) (s : List Char) :
    casedAhead (c :: s) = if isCaseIgnorable c then casedAhead s else isCased c := by
  unfold casedAhead
  rw [List.dropWhile_cons]
  cases isCaseIgnorable c <;> rfl

theorem casedAhead_append (s t : List Char) :
    casedAhead (s ++ t) = if s.all isCaseIgnorable then casedAhead t else casedAhead s := by
  induction s with
  | nil => rfl
  | cons c s ih =>
    rw [List.cons_append, casedAhead_cons, casedAhead_cons, ih, List.all_cons]
    cases isCaseIgnorable c <;> rfl

theorem casedAhead_of_all (h : s.all isCaseIgnorable = true) : casedAhead s = false := by
  have hall := casedAhead_append s []
  rwa [List.append_nil, if_pos h] at hall

/-- What comes after a text does not matter if its next letter has no case. -/
theorem casedAhead_append_of_uncased (h : casedAhead t = false) :
    casedAhead (s ++ t) = casedAhead s := by
  rw [casedAhead_append]
  split
  · next hall => rw [h, casedAhead_of_all hall]
  · rfl

/-- A character that is not passed over and has no case. -/
theorem casedAhead_cons_of_mark (hstop : isCaseIgnorable c = false) (hmark : isCased c = false) :
    casedAhead (c :: s) = false := by
  rw [casedAhead_cons, hstop, hmark]
  rfl

theorem casedAhead_of_forall (h : ∀ c ∈ s, isCased c = false) : casedAhead s = false := by
  induction s with
  | nil => rfl
  | cons c s ih =>
    obtain ⟨hc, hs⟩ := List.forall_mem_cons.mp h
    rw [casedAhead_cons, hc, ih hs, ite_self]

/-! ## The end of a word -/

/-- Whether a letter between two texts ends a word: the letter before it has a case and the one after it
has none. -/
def endsWord (before after : List Char) : Bool :=
  casedAhead before.reverse && !casedAhead after

/-- Texts around do not matter if no letter of them has a case where they begin. -/
theorem endsWord_append_append (hbefore : casedAhead before.reverse = false)
    (hafter : casedAhead after = false) :
    endsWord (before ++ front) (back ++ after) = endsWord front back := by
  rw [endsWord, List.reverse_append, casedAhead_append_of_uncased hbefore,
    casedAhead_append_of_uncased hafter, endsWord]

/-- The small letters of a text that stands between two others. -/
def lowercaseWithin (before after : List Char) : List Char → List Char
  | [] => []
  | c :: rest =>
    (if c = 'Σ' then [if endsWord before (rest ++ after) then 'ς' else 'σ'] else smallLetter c) ++
      lowercaseWithin (before ++ [c]) after rest

theorem lowercaseWithin_append (before after s t : List Char) :
    lowercaseWithin before after (s ++ t) =
      lowercaseWithin before (t ++ after) s ++ lowercaseWithin (before ++ s) after t := by
  induction s generalizing before with
  | nil => rw [List.append_nil]; rfl
  | cons c s ih =>
    rw [List.cons_append, lowercaseWithin, lowercaseWithin, ih]
    simp only [List.append_assoc, List.singleton_append]

/-- The letter before which a text goes on is the last one behind it. -/
theorem lowercaseFrom_eq (before s : List Char) :
    lowercaseFrom (casedAhead before.reverse) s = lowercaseWithin before [] s := by
  induction s generalizing before with
  | nil => rfl
  | cons c s ih =>
    have hbehind : (if isCaseIgnorable c then casedAhead before.reverse else isCased c) =
        casedAhead (before ++ [c]).reverse := by
      rw [List.reverse_append, List.reverse_singleton, List.singleton_append, casedAhead_cons]
    rw [lowercaseFrom, lowercaseWithin, hbehind, ih, List.append_nil, endsWord]

theorem lowercase_eq (s : List Char) : lowercase s = lowercaseWithin [] [] s :=
  lowercaseFrom_eq [] s

/-- **The small letters of a text hold those of each of its parts**, in the shapes that they have
there. -/
theorem lowercase_append_append (before s after : List Char) :
    lowercase (before ++ s ++ after) =
      lowercaseWithin [] (s ++ after) before ++ lowercaseWithin before after s ++
        lowercaseWithin (before ++ s) [] after := by
  rw [lowercase_eq, lowercaseWithin_append, lowercaseWithin_append, List.append_nil, List.nil_append,
    List.nil_append]

theorem lowercaseWithin_congr
    (h : ∀ front back, s = front ++ 'Σ' :: back →
      endsWord (before ++ front) (back ++ after) = endsWord (before' ++ front) (back ++ after')) :
    lowercaseWithin before after s = lowercaseWithin before' after' s := by
  induction s generalizing before before' with
  | nil => rfl
  | cons c s ih =>
    have hlater : lowercaseWithin (before ++ [c]) after s = lowercaseWithin (before' ++ [c]) after' s :=
      ih fun front back hs => by
        have hfront := h (c :: front) back (by rw [hs]; rfl)
        rwa [← List.singleton_append, ← List.append_assoc, ← List.append_assoc] at hfront
    rw [lowercaseWithin, lowercaseWithin, hlater]
    split
    · next hc =>
      subst hc
      have hhere := h [] s rfl
      rw [List.append_nil, List.append_nil] at hhere
      rw [hhere]
    · rfl

/-! ## Sigmas that keep their shape -/

/-- Every capital sigma of a text ends a word between two others if and only if it does on its own. -/
def KeepsSigmas (before s after : List Char) : Prop :=
  ∀ front back, s = front ++ 'Σ' :: back →
    endsWord (before ++ front) (back ++ after) = endsWord front back

theorem lowercaseWithin_eq_lowercase (h : KeepsSigmas before s after) :
    lowercaseWithin before after s = lowercase s := by
  rw [lowercase_eq]
  exact lowercaseWithin_congr fun front back hs => by rw [h front back hs, List.nil_append, List.append_nil]

/-- A capital sigma keeps its shape if the text itself holds a letter on each side of it. -/
theorem keepsSigmas_of_not_all
    (h : ∀ front back, s = front ++ 'Σ' :: back →
      ¬ front.all isCaseIgnorable = true ∧ ¬ back.all isCaseIgnorable = true)
    (before after : List Char) : KeepsSigmas before s after := fun front back hs => by
  obtain ⟨hfront, hback⟩ := h front back hs
  rw [endsWord, List.reverse_append, casedAhead_append, List.all_reverse, if_neg hfront,
    casedAhead_append, if_neg hback, endsWord]

/-- A part of a text, next to which no letter has a case. -/
def StandsApart (part text : List Char) : Prop :=
  ∃ before after, text = before ++ part ++ after ∧ casedAhead before.reverse = false ∧
    casedAhead after = false

/-- **What has its own small letters in a part that stands apart has them in the whole.** -/
theorem lowercase_infix_of_keepsSigmas {text : List Char}
    (h : StandsApart (before ++ s ++ after) text) (hkeeps : KeepsSigmas before s after) :
    lowercase s <:+: lowercase text := by
  obtain ⟨first, last, rfl, hfirst, hlast⟩ := h
  have hwhole : KeepsSigmas (first ++ before) s (after ++ last) := fun front back hs => by
    rw [← hkeeps front back hs, List.append_assoc, ← List.append_assoc back,
      endsWord_append_append hfirst hlast]
  have htext : first ++ (before ++ s ++ after) ++ last = first ++ before ++ s ++ (after ++ last) := by
    simp only [List.append_assoc]
  rw [htext, lowercase_append_append, lowercaseWithin_eq_lowercase hwhole]
  exact List.infix_append _ _ _

/-! ## Sigmas that do not -/

/-- Every capital sigma of a text that ends a word between two texts ends one between two others, too. -/
def EndsMore (before after before' after' s : List Char) : Prop :=
  ∀ front back, s = front ++ 'Σ' :: back → endsWord (before ++ front) (back ++ after) = true →
    endsWord (before' ++ front) (back ++ after') = true

theorem EndsMore.left (h : EndsMore before after before' after' (s ++ t)) :
    EndsMore before (t ++ after) before' (t ++ after') s := fun front back hs hends => by
  have hwhole := h front (back ++ t) (by rw [hs, List.append_assoc, List.cons_append])
  rw [List.append_assoc, List.append_assoc] at hwhole
  exact hwhole hends

theorem EndsMore.right (h : EndsMore before after before' after' (s ++ t)) :
    EndsMore (before ++ s) after (before' ++ s) after' t := fun front back ht hends => by
  rw [List.append_assoc] at hends ⊢
  exact h (s ++ front) back (by rw [ht, List.append_assoc]) hends

/-- The more sigmas end words, the more final sigmas there are, and the fewer others. -/
theorem EndsMore.count_le (h : EndsMore before after before' after' s) :
    (lowercaseWithin before after s).count 'ς' ≤ (lowercaseWithin before' after' s).count 'ς' ∧
      (lowercaseWithin before' after' s).count 'σ' ≤ (lowercaseWithin before after s).count 'σ' := by
  induction s generalizing before before' with
  | nil => exact ⟨le_rfl, le_rfl⟩
  | cons c s ih =>
    have hlater := ih (EndsMore.right (s := [c]) h)
    simp only [lowercaseWithin, List.count_append]
    split
    · next hc =>
      subst hc
      have hhere := h [] s rfl
      rw [List.append_nil, List.append_nil] at hhere
      cases hends : endsWord before (s ++ after) with
      | true =>
        rw [hhere hends]
        exact ⟨Nat.add_le_add_left hlater.1 _, Nat.add_le_add_left hlater.2 _⟩
      | false =>
        cases endsWord before' (s ++ after')
        · exact ⟨Nat.add_le_add_left hlater.1 _, Nat.add_le_add_left hlater.2 _⟩
        · exact ⟨Nat.add_le_add (by decide) hlater.1, Nat.add_le_add (by decide) hlater.2⟩
    · exact ⟨Nat.add_le_add_left hlater.1 _, Nat.add_le_add_left hlater.2 _⟩

theorem EndsMore.count_lt (h : EndsMore before after before' after' s) (hs : s = front ++ 'Σ' :: back)
    (hnot : endsWord (before ++ front) (back ++ after) = false)
    (hends : endsWord (before' ++ front) (back ++ after') = true) :
    (lowercaseWithin before after s).count 'ς' < (lowercaseWithin before' after' s).count 'ς' ∧
      (lowercaseWithin before' after' s).count 'σ' < (lowercaseWithin before after s).count 'σ' := by
  subst hs
  have hfront := h.left.count_le
  have hback := (EndsMore.right (s := ['Σ']) h.right).count_le
  simp only [lowercaseWithin_append, lowercaseWithin, if_pos, hnot, hends, List.count_append]
  have hfinal : List.count 'ς' ['σ'] = 0 ∧ List.count 'ς' ['ς'] = 1 := by decide
  have hother : List.count 'σ' ['ς'] = 0 ∧ List.count 'σ' ['σ'] = 1 := by decide
  simp only [Bool.false_eq_true, if_false]
  omega

theorem casedAhead_of_append (h : casedAhead (s ++ t) = false) : casedAhead s = false := by
  rw [casedAhead_append] at h
  split at h
  · next hall => exact casedAhead_of_all hall
  · exact h

theorem casedAhead_letter : casedAhead ['a'] = true ∧ casedAhead ['a', ' '] = true := by
  decide +kernel

theorem smallLetter_plain : smallLetter ' ' = [' '] ∧ smallLetter 'a' = ['a'] := by decide +kernel

/-- Nothing in the text tells what comes before the sigma: after a letter it ends a word. -/
theorem not_infix_of_letter_before (hs : s = front ++ 'Σ' :: back)
    (hfront : front.all isCaseIgnorable = true) (hback : casedAhead back = false) :
    ¬ lowercase s <:+: lowercase (' ' :: 'a' :: s) := by
  have hmore : EndsMore [] [] [' ', 'a'] [] s := by
    intro first last _ hends
    rw [endsWord, Bool.and_eq_true] at hends
    rw [endsWord, List.reverse_append, casedAhead_append, Bool.and_eq_true]
    refine ⟨?_, hends.2⟩
    split
    · exact casedAhead_letter.2
    · exact hends.1
  have hnot : endsWord ([] ++ front) (back ++ []) = false := by
    rw [endsWord, List.nil_append, casedAhead_of_all (by rwa [List.all_reverse])]
    rfl
  have hends : endsWord ([' ', 'a'] ++ front) (back ++ []) = true := by
    rw [List.append_nil, endsWord, List.reverse_append, casedAhead_append, List.all_reverse,
      if_pos hfront, hback]
    exact congrArg (· && true) casedAhead_letter.2
  have hcount := (hmore.count_lt hs hnot hends).2
  intro hinfix
  have hle := hinfix.sublist.count_le 'σ'
  have hlead : List.count 'σ' (lowercaseWithin [] (s ++ []) [' ', 'a']) = 0 := by
    simp [lowercaseWithin, smallLetter_plain]
  have htext : ' ' :: 'a' :: s = [' ', 'a'] ++ s ++ [] := (List.append_nil _).symm
  rw [htext, lowercase_append_append, lowercase_eq, List.count_append, List.count_append, hlead,
    lowercaseWithin, List.count_nil] at hle
  omega

/-- Nothing in the text tells what comes after the sigma: before a letter it does not end the word. -/
theorem not_infix_of_letter_after (hs : s = front ++ 'Σ' :: back)
    (hfront : casedAhead front.reverse = true) (hback : back.all isCaseIgnorable = true) :
    ¬ lowercase s <:+: lowercase (' ' :: (s ++ ['a'])) := by
  have hblank : ∀ first last, endsWord ([' '] ++ first) last = endsWord first last := fun first last => by
    rw [endsWord, List.reverse_append, casedAhead_append_of_uncased (by decide +kernel), endsWord]
  have hmore : EndsMore [' '] ['a'] [] [] s := by
    intro first last _ hends
    rw [hblank, endsWord, Bool.and_eq_true, Bool.not_eq_true'] at hends
    rw [List.nil_append, List.append_nil, endsWord, hends.1, casedAhead_of_append hends.2]
    rfl
  have hnot : endsWord ([' '] ++ front) (back ++ ['a']) = false := by
    rw [hblank, endsWord, casedAhead_append, if_pos hback, casedAhead_letter.1]
    exact Bool.and_false _
  have hends : endsWord ([] ++ front) (back ++ []) = true := by
    rw [List.nil_append, List.append_nil, endsWord, hfront, casedAhead_of_all hback]
    rfl
  have hcount := (hmore.count_lt hs hnot hends).1
  intro hinfix
  have hle := hinfix.sublist.count_le 'ς'
  have haround : List.count 'ς' (lowercaseWithin [] (s ++ ['a']) [' ']) = 0 ∧
      List.count 'ς' (lowercaseWithin ([' '] ++ s) [] ['a']) = 0 := by
    simp [lowercaseWithin, smallLetter_plain]
  have htext : ' ' :: (s ++ ['a']) = [' '] ++ s ++ ['a'] := rfl
  rw [htext, lowercase_append_append, lowercase_eq, List.count_append, List.count_append, haround.1,
    haround.2] at hle
  omega

/-- **A capital sigma that does not keep its shape everywhere is shown by a text**, which holds the text
of the sigma, but not its small letters, even where a blank stands in front. -/
theorem exists_not_infix (h : ¬ ∀ before after, KeepsSigmas before s after) :
    ∃ before after, ¬ lowercase s <:+: lowercase (' ' :: (before ++ s ++ after)) := by
  unfold KeepsSigmas at h
  push Not at h
  obtain ⟨before, after, front, back, hs, hne⟩ := h
  by_cases hfront : front.all isCaseIgnorable = true
  · have hnot : endsWord front back = false := by
      rw [endsWord, casedAhead_of_all (by rwa [List.all_reverse])]
      rfl
    rw [hnot, Bool.ne_false_iff, endsWord, Bool.and_eq_true, Bool.not_eq_true'] at hne
    refine ⟨['a'], [], ?_⟩
    rw [List.append_nil]
    exact not_infix_of_letter_before hs hfront (casedAhead_of_append hne.2)
  · have hbehind : casedAhead (before ++ front).reverse = casedAhead front.reverse := by
      rw [List.reverse_append, casedAhead_append, List.all_reverse, if_neg hfront]
    rw [endsWord, endsWord, hbehind] at hne
    have hback : back.all isCaseIgnorable = true := by
      by_contra hback
      rw [casedAhead_append, if_neg hback] at hne
      exact hne rfl
    have hcased : casedAhead front.reverse = true := by
      by_contra hnot
      rw [Bool.not_eq_true] at hnot
      rw [hnot] at hne
      exact hne rfl
    exact ⟨[], ['a'], not_infix_of_letter_after hs hcased hback⟩

end LogIntake.Text
