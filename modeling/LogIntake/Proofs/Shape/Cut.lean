import LogIntake.Proofs.Shape.Covers
import Mathlib.Data.List.Infix

/-!
# The preferred cut is found

* `Piece.Takes`: a piece can take a length of a text; `Piece.IsChoice`: the preferred one, if any.
* `Tabulates`: a row with an entry for each position of a text; kept by `tabulates_runChoices`,
  `tabulates_nonemptyChoices`, `tabulates_literalChoices`, `Shape.tabulates_choices`.
* `Shape.IsPreferred`: the parts of a cut that goes before all others.
* **`Shape.isPreferred_cut?`**: the cut that is found is the preferred one, and none is found only if
  there is none.
-/

namespace LogIntake

variable {rest : List Char → Prop} {kind : RunKind} {reach : Reach} {c : Char} {s : List Char} {k : Nat}

/-! ## Lengths that a piece can take -/

/-- A piece takes the first `k` characters of a text, and leaves one of the rests. -/
structure Piece.Takes (p : Piece) (rest : List Char → Prop) (s : List Char) (k : Nat) : Prop where
  le : k ≤ s.length
  fits : p.Fits (s.take k)
  leaves : rest (s.drop k)

/-- The length that a piece takes of a text, before all others, if it can take one. -/
def Piece.IsChoice (p : Piece) (rest : List Char → Prop) (s : List Char) : Option Nat → Prop
  | none => ∀ n, ¬ p.Takes rest s n
  | some k => p.Takes rest s k ∧ ∀ n, p.Takes rest s n → n = k ∨ p.Prefers k n

theorem Piece.IsChoice.isSome_iff {p : Piece} {choice : Option Nat} (h : p.IsChoice rest s choice) :
    choice.isSome = true ↔ ∃ k, p.Takes rest s k := by
  cases choice with
  | none => exact ⟨fun h' => absurd h' (by decide), fun ⟨k, hk⟩ => absurd hk (h k)⟩
  | some k => exact ⟨fun _ => ⟨k, h.1⟩, fun _ => rfl⟩

theorem takes_run_zero : (Piece.run kind false reach).Takes rest s 0 ↔ rest s := by
  refine ⟨fun h => h.leaves, fun h => ⟨Nat.zero_le _, ⟨fun h' => absurd h' (by decide), ?_⟩, h⟩⟩
  intro d hd
  exact absurd hd List.not_mem_nil

theorem takes_run_succ {nonempty : Bool} : (Piece.run kind nonempty reach).Takes rest (c :: s) (k + 1) ↔
    kind.accepts c = true ∧ (Piece.run kind false reach).Takes rest s k := by
  constructor
  · intro h
    have hfits := h.fits.2
    rw [List.take_succ_cons, List.forall_mem_cons] at hfits
    exact ⟨hfits.1, Nat.le_of_succ_le_succ h.le, ⟨fun h' => absurd h' (by decide), hfits.2⟩, h.leaves⟩
  · rintro ⟨hc, h⟩
    refine ⟨Nat.succ_le_succ h.le, ⟨fun _ => ?_, ?_⟩, h.leaves⟩
    · rw [List.take_succ_cons]
      exact List.cons_ne_nil _ _
    · rw [List.take_succ_cons, List.forall_mem_cons]
      exact ⟨hc, h.fits.2⟩

theorem not_takes_nonempty_zero : ¬ (Piece.run kind true reach).Takes rest s 0 :=
  fun h => h.fits.1 rfl List.take_zero

theorem not_takes_nonempty_nil : ¬ (Piece.run kind true reach).Takes rest [] k :=
  fun h => h.fits.1 rfl List.take_nil

/-- A run takes nothing, or what a nonempty run takes. -/
theorem takes_run_iff : (Piece.run kind false reach).Takes rest s k ↔
    k = 0 ∧ rest s ∨ (Piece.run kind true reach).Takes rest s k := by
  cases k with
  | zero => simp [takes_run_zero, not_takes_nonempty_zero]
  | succ k =>
    cases s with
    | nil => exact ⟨fun h => absurd h.le (by simp), fun h => by simp [not_takes_nonempty_nil] at h⟩
    | cons c s => simp [takes_run_succ]

theorem takes_literal {text : List Char} : (Piece.literal text).Takes rest s k ↔
    k = text.length ∧ text <+: s ∧ rest (s.drop text.length) := by
  constructor
  · intro h
    have hk : k = text.length := by
      rw [← show s.take k = text from h.fits, List.length_take, Nat.min_eq_left h.le]
    subst hk
    exact ⟨rfl, ⟨s.drop text.length, by rw [← h.fits]; simp [List.length_take, h.le]⟩, h.leaves⟩
  · rintro ⟨rfl, hfront, hrest⟩
    exact ⟨hfront.length_le, (List.prefix_iff_eq_take.mp hfront).symm, hrest⟩

/-! ## Rows -/

/-- An entry for each position of a text, with a property of what remains there. -/
abbrev Tabulates {α : Type} (Q : List Char → α → Prop) (s : List Char) (row : List α) : Prop :=
  List.Forall₂ Q s.tails row

variable {α : Type} {Q : List Char → α → Prop} {row : List α}

theorem Tabulates.nil_iff : Tabulates Q [] row ↔ ∃ a, row = [a] ∧ Q [] a := by
  rw [Tabulates, List.tails, List.forall₂_cons_left_iff]
  constructor
  · rintro ⟨a, later, ha, hlater, rfl⟩
    exact ⟨a, by rw [List.forall₂_nil_left_iff.mp hlater], ha⟩
  · rintro ⟨a, rfl, ha⟩
    exact ⟨a, [], ha, .nil, rfl⟩

theorem Tabulates.cons_iff : Tabulates Q (c :: s) row ↔
    ∃ a later, row = a :: later ∧ Q (c :: s) a ∧ Tabulates Q s later := by
  rw [Tabulates, List.tails_cons, List.forall₂_cons_left_iff]
  constructor
  · rintro ⟨a, later, ha, hlater, rfl⟩
    exact ⟨a, later, rfl, ha, hlater⟩
  · rintro ⟨a, later, rfl, ha, hlater⟩
    exact ⟨a, later, ha, hlater, rfl⟩

/-- The entry at the position where `s` is left after `k` characters. -/
theorem Tabulates.drop (h : Tabulates Q s row) (hk : k ≤ s.length) :
    ∃ a later, row.drop k = a :: later ∧ Q (s.drop k) a := by
  induction k generalizing s row with
  | zero =>
    cases s with
    | nil =>
      obtain ⟨a, rfl, ha⟩ := Tabulates.nil_iff.mp h
      exact ⟨a, [], rfl, ha⟩
    | cons c s =>
      obtain ⟨a, later, rfl, ha, _⟩ := Tabulates.cons_iff.mp h
      exact ⟨a, later, rfl, ha⟩
  | succ k ih =>
    cases s with
    | nil => exact absurd hk (by simp)
    | cons c s =>
      obtain ⟨a, later, rfl, _, hlater⟩ := Tabulates.cons_iff.mp h
      exact ih hlater (Nat.le_of_succ_le_succ hk)

theorem Tabulates.head (h : Tabulates Q s row) : ∃ a later, row = a :: later ∧ Q s a := by
  obtain ⟨a, later, hrow, ha⟩ := h.drop (Nat.zero_le _)
  exact ⟨a, later, hrow, ha⟩

theorem tabulates_fitsAtEnd (s : List Char) :
    Tabulates (fun t fits => fits = true ↔ t = []) s (fitsAtEnd s) := by
  induction s with
  | nil => exact Tabulates.nil_iff.mpr ⟨true, rfl, by simp⟩
  | cons c s ih => exact Tabulates.cons_iff.mpr ⟨false, _, rfl, by simp, ih⟩

/-! ## The rows of a piece -/

/-- The choice for a nonempty run follows from the choice for what may be left of it. -/
theorem isChoice_nonempty_cons {later : Option Nat}
    (hlater : (Piece.run kind false reach).IsChoice rest s later) :
    (Piece.run kind true reach).IsChoice rest (c :: s)
      (if kind.accepts c then later.map (· + 1) else none) := by
  by_cases hc : kind.accepts c = true
  · rw [if_pos hc]
    cases later with
    | none =>
      intro n hn
      cases n with
      | zero => exact not_takes_nonempty_zero hn
      | succ n => exact hlater n (takes_run_succ.mp hn).2
    | some k =>
      refine ⟨takes_run_succ.mpr ⟨hc, hlater.1⟩, fun n hn => ?_⟩
      cases n with
      | zero => exact absurd hn not_takes_nonempty_zero
      | succ n =>
        rcases hlater.2 n (takes_run_succ.mp hn).2 with rfl | h
        · exact .inl rfl
        · cases reach with
          | shortest => exact .inr (Nat.succ_lt_succ h)
          | longest => exact .inr (Nat.succ_lt_succ h)
  · rw [if_neg hc]
    intro n hn
    cases n with
    | zero => exact not_takes_nonempty_zero hn
    | succ n => exact hc (takes_run_succ.mp hn).1

/-- The choice for a run that may be empty, from the choice for a nonempty one: a run that is kept
short takes nothing where it can. -/
theorem isChoice_shortest {here : Bool} {longer : Option Nat} (hhere : here = true ↔ rest s)
    (hlonger : (Piece.run kind true .shortest).IsChoice rest s longer) :
    (Piece.run kind false .shortest).IsChoice rest s ((if here then some 0 else none).or longer) := by
  cases here with
  | true =>
    refine ⟨takes_run_zero.mpr (hhere.mp rfl), fun n hn => ?_⟩
    rcases Nat.eq_zero_or_pos n with rfl | hpos
    · exact .inl rfl
    · exact .inr hpos
  | false =>
    have htakes : ∀ n, (Piece.run kind false .shortest).Takes rest s n ↔
        (Piece.run kind true .shortest).Takes rest s n := by
      intro n
      rw [takes_run_iff, ← hhere]
      simp
    cases longer with
    | none => exact fun n hn => hlonger n ((htakes n).mp hn)
    | some k => exact ⟨(htakes k).mpr hlonger.1, fun n hn => hlonger.2 n ((htakes n).mp hn)⟩

/-- A run that is made long takes nothing only where it cannot take anything else. -/
theorem isChoice_longest {here : Bool} {longer : Option Nat} (hhere : here = true ↔ rest s)
    (hlonger : (Piece.run kind true .longest).IsChoice rest s longer) :
    (Piece.run kind false .longest).IsChoice rest s (longer.or (if here then some 0 else none)) := by
  cases longer with
  | some k =>
    refine ⟨takes_run_iff.mpr (.inr hlonger.1), fun n hn => ?_⟩
    rcases takes_run_iff.mp hn with ⟨rfl, _⟩ | h
    · refine .inr (Nat.pos_of_ne_zero ?_)
      rintro rfl
      exact not_takes_nonempty_zero hlonger.1
    · exact hlonger.2 n h
  | none =>
    have htakes : ∀ n, (Piece.run kind false .longest).Takes rest s n ↔ n = 0 ∧ here = true := by
      intro n
      rw [takes_run_iff, hhere]
      exact or_iff_left (hlonger n)
    cases here with
    | true => exact ⟨(htakes 0).mpr ⟨rfl, rfl⟩, fun n hn => .inl ((htakes n).mp hn).1⟩
    | false => exact fun n hn => absurd ((htakes n).mp hn).2 (by decide)

variable {fits : List Bool} {choices : List (Option Nat)}

theorem tabulates_runChoices (h : Tabulates (fun t here => here = true ↔ rest t) s fits) :
    Tabulates ((Piece.run kind false reach).IsChoice rest) s
      (runChoices kind.accepts reach s fits) := by
  induction s generalizing fits with
  | nil =>
    obtain ⟨here, rfl, hhere⟩ := Tabulates.nil_iff.mp h
    have hlonger : (Piece.run kind true reach).IsChoice rest [] none :=
      fun n => not_takes_nonempty_nil
    refine Tabulates.nil_iff.mpr ⟨_, rfl, ?_⟩
    cases reach with
    | shortest =>
      have hchoice := isChoice_shortest hhere hlonger
      rwa [Option.or_none] at hchoice
    | longest => exact isChoice_longest hhere hlonger
  | cons c s ih =>
    obtain ⟨here, later, rfl, hhere, hlater⟩ := Tabulates.cons_iff.mp h
    obtain ⟨next, others, hrow, hnext⟩ := (ih hlater).head
    refine Tabulates.cons_iff.mpr ⟨_, _, rfl, ?_, ih hlater⟩
    rw [List.tail_cons, hrow]
    cases reach with
    | shortest => exact isChoice_shortest hhere (isChoice_nonempty_cons hnext)
    | longest => exact isChoice_longest hhere (isChoice_nonempty_cons hnext)

theorem tabulates_nonemptyChoices
    (h : Tabulates ((Piece.run kind false reach).IsChoice rest) s choices) :
    Tabulates ((Piece.run kind true reach).IsChoice rest) s
      (nonemptyChoices kind.accepts s choices) := by
  induction s generalizing choices with
  | nil => exact Tabulates.nil_iff.mpr ⟨none, rfl, fun n => not_takes_nonempty_nil⟩
  | cons c s ih =>
    obtain ⟨_, later, rfl, _, hlater⟩ := Tabulates.cons_iff.mp h
    obtain ⟨next, others, rfl, hnext⟩ := hlater.head
    exact Tabulates.cons_iff.mpr ⟨_, _, rfl, isChoice_nonempty_cons hnext, ih hlater⟩

/-- The choice for a fixed text, where `there` says whether the rest after it is one. -/
theorem isChoice_literal {text : List Char} {there : Bool}
    (hthere : text.length ≤ s.length → (there = true ↔ rest (s.drop text.length))) :
    (Piece.literal text).IsChoice rest s
      (if text.isPrefixOf s && there then some text.length else none) := by
  by_cases h : (text.isPrefixOf s && there) = true
  · rw [if_pos h]
    rw [Bool.and_eq_true, List.isPrefixOf_iff_prefix] at h
    exact ⟨takes_literal.mpr ⟨rfl, h.1, (hthere h.1.length_le).mp h.2⟩,
      fun n hn => .inl (takes_literal.mp hn).1⟩
  · rw [if_neg h]
    intro n hn
    obtain ⟨_, hfront, hrest⟩ := takes_literal.mp hn
    rw [Bool.and_eq_true, List.isPrefixOf_iff_prefix] at h
    exact h ⟨hfront, (hthere hfront.length_le).mpr hrest⟩

theorem tabulates_literalChoices {text : List Char}
    (h : Tabulates (fun t here => here = true ↔ rest t) s fits) :
    Tabulates ((Piece.literal text).IsChoice rest) s (literalChoices text s fits) := by
  induction s generalizing fits with
  | nil =>
    obtain ⟨here, rfl, hhere⟩ := Tabulates.nil_iff.mp h
    have hempty : text.isEmpty = text.isPrefixOf [] := by cases text <;> rfl
    refine Tabulates.nil_iff.mpr ⟨_, rfl, ?_⟩
    rw [hempty, show (if (text.isPrefixOf [] && [here].headD false) = true then some 0 else none) =
      if (text.isPrefixOf [] && here) = true then some text.length else none by cases text <;> rfl]
    exact isChoice_literal fun hle => by rwa [List.drop_nil]
  | cons c s ih =>
    refine Tabulates.cons_iff.mpr ⟨_, _, rfl, isChoice_literal fun hle => ?_, ?_⟩
    · obtain ⟨there, others, hdrop, hthere⟩ := h.drop hle
      rwa [hdrop]
    · obtain ⟨_, later, rfl, _, hlater⟩ := Tabulates.cons_iff.mp h
      exact ih hlater

/-- The row of a piece, from the marks of the positions where the rest of the shape fits. -/
theorem Piece.tabulates_choices (p : Piece)
    (h : Tabulates (fun t here => here = true ↔ rest t) s fits) :
    Tabulates (p.IsChoice rest) s (p.choices s fits) := by
  cases p with
  | literal text => exact tabulates_literalChoices h
  | run kind nonempty reach =>
    cases nonempty with
    | false => exact tabulates_runChoices h
    | true => exact tabulates_nonemptyChoices (tabulates_runChoices h)

/-! ## The rows of a shape -/

/-- A text can be cut if its first piece can take a length that leaves a rest which can be cut. -/
theorem covers_cons_iff_takes {p : Piece} {shape : Shape} :
    Shape.Covers (p :: shape) s ↔ ∃ k, p.Takes shape.Covers s k := by
  rw [covers_cons_iff]
  constructor
  · rintro ⟨part, left, rfl, hfits, hleft⟩
    refine ⟨part.length, by simp, ?_, ?_⟩
    · rwa [List.take_left]
    · rwa [List.drop_left]
  · rintro ⟨k, _, hfits, hleft⟩
    exact ⟨s.take k, s.drop k, (List.take_append_drop k s).symm, hfits, hleft⟩

theorem Shape.tabulates_choices (p : Piece) (shape : Shape) (s : List Char) :
    ∃ row, Shape.choices (p :: shape) s = row :: Shape.choices shape s ∧
      Tabulates (p.IsChoice shape.Covers) s row := by
  refine ⟨_, rfl, p.tabulates_choices ?_⟩
  cases shape with
  | nil =>
    refine (tabulates_fitsAtEnd s).imp fun t here h => ?_
    rw [h, covers_nil_iff]
  | cons q shape =>
    obtain ⟨row, hrow, h⟩ := Shape.tabulates_choices q shape s
    rw [hrow]
    refine List.forall₂_map_right_iff.mpr (h.imp fun t choice hchoice => ?_)
    rw [hchoice.isSome_iff, covers_cons_iff_takes]

/-! ## The cut -/

/-- The parts of a cut that goes before all others, if there is a cut. -/
def Shape.IsPreferred (shape : Shape) (s : List Char) : Option (List (List Char)) → Prop
  | none => ¬ shape.Covers s
  | some parts => IsCut shape s parts ∧
      ∀ others, IsCut shape s others → others = parts ∨ Prefers shape parts others

/-- A piece that takes its preferred length, and then the preferred cut of the rest. -/
theorem isPreferred_cons {p : Piece} {shape : Shape} {later : Option (List (List Char))}
    (hk : p.IsChoice shape.Covers s (some k)) (hlater : shape.IsPreferred (s.drop k) later) :
    Shape.IsPreferred (p :: shape) s (later.map (s.take k :: ·)) := by
  cases later with
  | none => exact absurd hk.1.leaves hlater
  | some parts =>
    refine ⟨?_, fun others hothers => ?_⟩
    · have hcut := IsCut.part hk.1.fits hlater.1
      rwa [List.take_append_drop] at hcut
    · obtain ⟨head, more, hfits, rfl, left, rfl, hleft⟩ := isCut_cons_iff.mp hothers
      have hlen : ((head ++ left).take k).length = k := by
        rw [List.length_take, Nat.min_eq_left hk.1.le]
      rcases hk.2 head.length ⟨by simp, by rwa [List.take_left], more, by rwa [List.drop_left]⟩ with
        rfl | hprefers
      · rw [List.drop_left] at hlater
        rw [List.take_left]
        rcases hlater.2 more hleft with rfl | h
        · exact .inl rfl
        · exact .inr (.later rfl h)
      · exact .inr (.here (by rwa [hlen]))

theorem isPreferred_followChoices (shape : Shape) {position : Nat} (h : position ≤ s.length) :
    shape.IsPreferred (s.drop position)
      (followChoices (shape.choices s) position (s.drop position)) := by
  induction shape generalizing position with
  | nil =>
    cases hs : s.drop position with
    | nil => exact ⟨.done, fun others h => .inl (isCut_nil_iff.mp h).2⟩
    | cons c t => exact fun h => absurd (covers_nil_iff.mp h) (List.cons_ne_nil _ _)
  | cons p shape ih =>
    obtain ⟨row, hrow, htab⟩ := Shape.tabulates_choices p shape s
    obtain ⟨choice, later, hdrop, hchoice⟩ := htab.drop h
    have hget : row.getD position none = choice := by
      rw [List.getD_eq_getElem?_getD, ← List.head?_drop, hdrop]
      rfl
    rw [hrow, followChoices, hget]
    cases choice with
    | none => exact fun hcovers => (covers_cons_iff_takes.mp hcovers).elim hchoice
    | some k =>
      have hk : position + k ≤ s.length := by
        have := hchoice.1.le
        rw [List.length_drop] at this
        omega
      exact isPreferred_cons hchoice (by rw [List.drop_drop]; exact ih hk)

/-- **The cut that is found goes before all others, and none is found only if there is none.** -/
theorem Shape.isPreferred_cut? (shape : Shape) (s : List Char) :
    shape.IsPreferred s (shape.cut? s) :=
  isPreferred_followChoices shape (Nat.zero_le _)

theorem Shape.isSome_cut?_iff (shape : Shape) (s : List Char) :
    (shape.cut? s).isSome = true ↔ shape.Covers s := by
  have h := shape.isPreferred_cut? s
  cases hc : shape.cut? s with
  | none =>
    rw [hc] at h
    exact ⟨fun h' => absurd h' (by decide), fun h' => absurd h' h⟩
  | some parts =>
    rw [hc] at h
    exact ⟨fun _ => ⟨parts, h.1⟩, fun _ => rfl⟩

instance (shape : Shape) (s : List Char) : Decidable (shape.Covers s) :=
  decidable_of_iff _ (shape.isSome_cut?_iff s)

end LogIntake
