import LogIntake.Shape.Cut
import Mathlib.Data.List.Forall2

/-!
# Texts that can be cut along a shape

* `isCut_nil_iff`, `isCut_cons_iff`, `isCut_append_iff`: the cuts along a shape, by its pieces.
* `IsCut.length_eq`, `IsCut.flatten`: a cut has a part for each piece, and loses nothing.
* `Shape.Covers`: a text can be cut along a shape.
* **`covers_flatMap_iff`**: a text is cut along the shapes of several items by cutting it into a piece
  for each.
-/

namespace LogIntake

variable {p : Piece} {shape a b : Shape} {s : List Char} {parts : List (List Char)}

theorem isCut_nil_iff : IsCut [] s parts ↔ s = [] ∧ parts = [] := by
  constructor
  · rintro ⟨⟩
    exact ⟨rfl, rfl⟩
  · rintro ⟨rfl, rfl⟩
    exact .done

theorem isCut_cons_iff : IsCut (p :: shape) s parts ↔
    ∃ head later, p.Fits head ∧ parts = head :: later ∧
      ∃ left, s = head ++ left ∧ IsCut shape left later := by
  constructor
  · rintro (_ | ⟨hfits, hcut⟩)
    exact ⟨_, _, hfits, rfl, _, rfl, hcut⟩
  · rintro ⟨head, later, hfits, rfl, left, rfl, hcut⟩
    exact .part hfits hcut

theorem isCut_append_iff : IsCut (a ++ b) s parts ↔ ∃ s₁ s₂, s = s₁ ++ s₂ ∧
    IsCut a s₁ (parts.take a.length) ∧ IsCut b s₂ (parts.drop a.length) := by
  induction a generalizing s parts with
  | nil =>
    constructor
    · intro h
      exact ⟨[], s, rfl, .done, h⟩
    · rintro ⟨s₁, s₂, rfl, h₁, h₂⟩
      rw [(isCut_nil_iff.mp h₁).1]
      exact h₂
  | cons p a ih =>
    rw [List.cons_append, isCut_cons_iff]
    constructor
    · rintro ⟨head, later, hfits, rfl, left, rfl, hcut⟩
      obtain ⟨s₁, s₂, rfl, h₁, h₂⟩ := ih.mp hcut
      exact ⟨head ++ s₁, s₂, (List.append_assoc _ _ _).symm, .part hfits h₁, h₂⟩
    · rintro ⟨s₁, s₂, rfl, h₁, h₂⟩
      obtain ⟨head, later, hfits, hparts, left, rfl, hcut⟩ := isCut_cons_iff.mp h₁
      cases parts with
      | nil => exact absurd hparts (by simp)
      | cons part parts =>
        rw [List.length_cons, List.take_succ_cons, List.cons.injEq] at hparts
        obtain ⟨rfl, rfl⟩ := hparts
        exact ⟨_, parts, hfits, rfl, left ++ s₂, List.append_assoc _ _ _,
          ih.mpr ⟨left, s₂, rfl, hcut, h₂⟩⟩

theorem IsCut.length_eq (h : IsCut shape s parts) : parts.length = shape.length := by
  induction h with
  | done => rfl
  | part _ _ ih => rw [List.length_cons, List.length_cons, ih]

theorem IsCut.flatten (h : IsCut shape s parts) : parts.flatten = s := by
  induction h with
  | done => rfl
  | part _ _ ih => rw [List.flatten_cons, ih]

theorem isCut_iff : IsCut shape s parts ↔ s = parts.flatten ∧ List.Forall₂ Piece.Fits shape parts := by
  constructor
  · intro h
    induction h with
    | done => exact ⟨rfl, .nil⟩
    | part hfits _ ih => exact ⟨by rw [List.flatten_cons, ← ih.1], .cons hfits ih.2⟩
  · rintro ⟨rfl, h⟩
    induction h with
    | nil => exact .done
    | cons hfits _ ih => exact .part hfits ih

theorem IsCut.append {t : List Char} {others : List (List Char)} (h : IsCut a s parts)
    (h' : IsCut b t others) : IsCut (a ++ b) (s ++ t) (parts ++ others) := by
  induction h with
  | done => exact h'
  | part hfits _ ih =>
    rw [List.append_assoc]
    exact .part hfits ih

/-- A text can be cut along a shape. -/
def Shape.Covers (shape : Shape) (s : List Char) : Prop :=
  ∃ parts, IsCut shape s parts

theorem covers_nil_iff : Shape.Covers [] s ↔ s = [] := by
  simp [Shape.Covers, isCut_nil_iff]

theorem covers_cons_iff : Shape.Covers (p :: shape) s ↔
    ∃ part left, s = part ++ left ∧ p.Fits part ∧ shape.Covers left := by
  constructor
  · rintro ⟨parts, h⟩
    obtain ⟨part, later, hfits, rfl, left, hs, hleft⟩ := isCut_cons_iff.mp h
    exact ⟨part, left, hs, hfits, later, hleft⟩
  · rintro ⟨part, left, rfl, hfits, later, hleft⟩
    exact ⟨part :: later, .part hfits hleft⟩

theorem covers_single_iff : Shape.Covers [p] s ↔ p.Fits s := by
  rw [covers_cons_iff]
  constructor
  · rintro ⟨part, left, rfl, hfits, hleft⟩
    rwa [covers_nil_iff.mp hleft, List.append_nil]
  · intro hfits
    exact ⟨s, [], (List.append_nil s).symm, hfits, covers_nil_iff.mpr rfl⟩

theorem covers_append_iff : Shape.Covers (a ++ b) s ↔
    ∃ s₁ s₂, s = s₁ ++ s₂ ∧ a.Covers s₁ ∧ b.Covers s₂ := by
  constructor
  · rintro ⟨parts, h⟩
    obtain ⟨s₁, s₂, hs, h₁, h₂⟩ := isCut_append_iff.mp h
    exact ⟨s₁, s₂, hs, ⟨_, h₁⟩, ⟨_, h₂⟩⟩
  · rintro ⟨s₁, s₂, rfl, ⟨parts₁, h₁⟩, ⟨parts₂, h₂⟩⟩
    exact ⟨parts₁ ++ parts₂, h₁.append h₂⟩

/-- **A text is cut along the shapes of several items by cutting it into a piece for each.** -/
theorem covers_flatMap_iff {τ : Type} (shape : τ → Shape) (items : List τ) :
    Shape.Covers (items.flatMap shape) s ↔ ∃ pieces, s = pieces.flatten ∧
      List.Forall₂ (fun item piece => (shape item).Covers piece) items pieces := by
  induction items generalizing s with
  | nil =>
    rw [List.flatMap_nil, covers_nil_iff]
    constructor
    · rintro rfl
      exact ⟨[], rfl, .nil⟩
    · rintro ⟨_, rfl, ⟨⟩⟩
      rfl
  | cons item items ih =>
    rw [List.flatMap_cons, covers_append_iff]
    constructor
    · rintro ⟨piece, left, rfl, hpiece, hleft⟩
      obtain ⟨pieces, rfl, hpieces⟩ := ih.mp hleft
      exact ⟨piece :: pieces, rfl, .cons hpiece hpieces⟩
    · rintro ⟨_, rfl, _ | ⟨hpiece, hpieces⟩⟩
      exact ⟨_, _, rfl, hpiece, ih.mpr ⟨_, rfl, hpieces⟩⟩

end LogIntake
