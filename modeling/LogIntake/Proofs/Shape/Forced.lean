import LogIntake.Proofs.Shape.Cut

/-!
# Cuts that are forced

* `Prefers.asymm`, `Shape.IsPreferred.unique`: there is one preferred cut at most;
  `Shape.IsPreferred.cut?_eq`: it is the one that is found.
* `Shape.IsPreferred.append`: the end of a preferred cut is the preferred cut of what remains.
* `Piece.Opens`: the characters that a piece can begin with; `Piece.IsSolid`: it is never empty.
* `Shape.leastLength`: the number of characters that a shape needs.
* `Shape.Forces`: each run of a shape ends at a character that it or the next piece tells.
* `isChoice_short`, `isChoice_long`: the part that a run takes, from what the rest of the shape allows.
* **`Shape.Forces.isPreferred`**: a cut that is forced is the preferred one.
-/

namespace LogIntake

/-! ## One preferred cut -/

variable {p : Piece} {shape a b : Shape} {s : List Char} {parts others : List (List Char)}

theorem Piece.prefers_irrefl (p : Piece) (n : Nat) : ¬ p.Prefers n n := by
  rcases p with text | ⟨kind, nonempty, _ | _⟩
  · exact id
  · exact Nat.lt_irrefl n
  · exact Nat.lt_irrefl n

theorem Piece.prefers_asymm {m n : Nat} (h : p.Prefers m n) : ¬ p.Prefers n m := by
  rcases p with text | ⟨kind, nonempty, _ | _⟩
  · exact id
  · exact Nat.lt_asymm h
  · exact Nat.lt_asymm h

theorem Prefers.asymm (h : Prefers shape parts others) : ¬ Prefers shape others parts := by
  induction h with
  | here hp =>
    intro h'
    cases h' with
    | here hp' => exact Piece.prefers_asymm hp hp'
    | later hlen _ => exact Piece.prefers_irrefl _ _ (hlen ▸ hp)
  | later hlen _ ih =>
    intro h'
    cases h' with
    | here hp' => exact Piece.prefers_irrefl _ _ (hlen ▸ hp')
    | later _ h' => exact ih h'

/-- There is one preferred cut at most. -/
theorem Shape.IsPreferred.unique (h : shape.IsPreferred s (some parts))
    (h' : shape.IsPreferred s (some others)) : parts = others := by
  rcases h.2 others h'.1 with heq | hprefers
  · exact heq.symm
  · rcases h'.2 parts h.1 with heq | hprefers'
    · exact heq
    · exact absurd hprefers' hprefers.asymm

/-- The preferred cut is the one that is found. -/
theorem Shape.IsPreferred.cut?_eq (h : shape.IsPreferred s (some parts)) : shape.cut? s = some parts := by
  have hfound := shape.isPreferred_cut? s
  cases hcut : shape.cut? s with
  | none =>
    rw [hcut] at hfound
    exact absurd ⟨parts, h.1⟩ hfound
  | some found =>
    rw [hcut] at hfound
    rw [h.unique hfound]

theorem prefers_append_left {front x y : List (List Char)} (hlen : front.length = a.length)
    (h : Prefers (a ++ b) (front ++ x) (front ++ y)) : Prefers b x y := by
  induction a generalizing front with
  | nil =>
    obtain rfl := List.length_eq_zero_iff.mp hlen
    exact h
  | cons p a ih =>
    cases front with
    | nil => exact absurd hlen (by simp)
    | cons part front =>
      cases h with
      | here hp => exact absurd hp (p.prefers_irrefl _)
      | later _ h => exact ih (Nat.succ.inj hlen) h

/-- The end of a preferred cut is the preferred cut of what remains. -/
theorem Shape.IsPreferred.append (h : Shape.IsPreferred (a ++ b) s (some parts)) :
    ∃ s₁ s₂, s = s₁ ++ s₂ ∧ IsCut a s₁ (parts.take a.length) ∧
      b.IsPreferred s₂ (some (parts.drop a.length)) := by
  obtain ⟨s₁, s₂, rfl, h₁, h₂⟩ := isCut_append_iff.mp h.1
  refine ⟨s₁, s₂, rfl, h₁, h₂, fun others hothers => ?_⟩
  have hlen : (parts.take a.length).length = a.length := h₁.length_eq
  have hwhole : IsCut (a ++ b) (s₁ ++ s₂) (parts.take a.length ++ others) := by
    refine isCut_append_iff.mpr ⟨s₁, s₂, rfl, ?_, ?_⟩
    · rwa [List.take_left' hlen]
    · rwa [List.drop_left' hlen]
  rcases h.2 _ hwhole with heq | hprefers
  · left
    rw [← heq, List.drop_left' hlen]
  · right
    have hsplit : Prefers (a ++ b) (parts.take a.length ++ parts.drop a.length)
        (parts.take a.length ++ others) := by rwa [List.take_append_drop]
    exact prefers_append_left hlen hsplit

/-! ## Forced cuts -/

/-- The characters that a piece can begin with. -/
def Piece.Opens : Piece → Char → Prop
  | .literal text, c => text.head? = some c
  | .run kind _ _, c => kind.accepts c = true

/-- The piece stands for no empty text. -/
def Piece.IsSolid : Piece → Prop
  | .literal text => text ≠ []
  | .run _ nonempty _ => nonempty = true

theorem Piece.Fits.opens {part : List Char} {c : Char} {rest : List Char} (hsolid : p.IsSolid)
    (h : p.Fits part) (hs : part ++ s = c :: rest) : p.Opens c := by
  cases part with
  | nil =>
    cases p with
    | literal text => exact absurd h.symm hsolid
    | run kind nonempty reach => exact absurd rfl (h.1 hsolid)
  | cons d part =>
    obtain rfl : d = c := (List.cons.inj hs).1
    cases p with
    | literal text =>
      obtain rfl : d :: part = text := h
      rfl
    | run kind nonempty reach => exact h.2 d List.mem_cons_self

theorem Shape.Covers.opens {c : Char} {rest : List Char} (hsolid : p.IsSolid)
    (h : Shape.Covers (p :: shape) (c :: rest)) : p.Opens c := by
  obtain ⟨part, left, hs, hfits, _⟩ := covers_cons_iff.mp h
  exact hfits.opens hsolid hs.symm

theorem Shape.Covers.ne_nil (hsolid : p.IsSolid) (h : Shape.Covers (p :: shape) s) : s ≠ [] := by
  obtain ⟨part, left, rfl, hfits, _⟩ := covers_cons_iff.mp h
  intro hnil
  obtain ⟨rfl, -⟩ := List.append_eq_nil_iff.mp hnil
  cases p with
  | literal text => exact hsolid hfits.symm
  | run kind nonempty reach => exact hfits.1 hsolid rfl

/-- The number of characters that a piece needs. -/
def Piece.leastLength : Piece → Nat
  | .literal text => text.length
  | .run _ nonempty _ => if nonempty then 1 else 0

/-- The number of characters that a shape needs. -/
def Shape.leastLength : Shape → Nat
  | [] => 0
  | p :: shape => p.leastLength + leastLength shape

theorem Shape.leastLength_append (a b : Shape) :
    leastLength (a ++ b) = a.leastLength + b.leastLength := by
  induction a with
  | nil => exact (Nat.zero_add _).symm
  | cons p a ih =>
    change p.leastLength + leastLength (a ++ b) = _
    rw [ih, leastLength, Nat.add_assoc]

theorem Piece.Fits.leastLength_le {part : List Char} (h : p.Fits part) : p.leastLength ≤ part.length := by
  cases p with
  | literal text =>
    obtain rfl : part = text := h
    exact Nat.le_refl _
  | run kind nonempty reach =>
    cases nonempty with
    | false => exact Nat.zero_le _
    | true => exact List.length_pos_iff.mpr (h.1 rfl)

theorem Shape.Covers.leastLength_le (h : shape.Covers s) : shape.leastLength ≤ s.length := by
  induction shape generalizing s with
  | nil => exact Nat.zero_le _
  | cons p shape ih =>
    obtain ⟨part, left, rfl, hfits, hleft⟩ := covers_cons_iff.mp h
    rw [List.length_append]
    exact Nat.add_le_add hfits.leastLength_le (ih hleft)

/-- Parts along a shape that have no choice: a run that is kept short has no character with which the
next piece can begin, and a run that is made long is followed by a character that it does not take. -/
inductive Shape.Forces : Shape → List (List Char) → Prop where
  | done : Forces [] []
  | literal {text : List Char} {shape : Shape} {parts : List (List Char)} :
      Forces shape parts → Forces (.literal text :: shape) (text :: parts)
  | short {kind : RunKind} {nonempty : Bool} {part : List Char} {p : Piece} {shape : Shape}
      {parts : List (List Char)} : (Piece.run kind nonempty .shortest).Fits part → p.IsSolid →
      (∀ c ∈ part, ¬ p.Opens c) → Forces (p :: shape) parts →
        Forces (.run kind nonempty .shortest :: p :: shape) (part :: parts)
  | long {kind : RunKind} {nonempty : Bool} {part : List Char} {shape : Shape}
      {parts : List (List Char)} : (Piece.run kind nonempty .longest).Fits part →
      (∀ c ∈ parts.flatten.head?, kind.accepts c = false) → Forces shape parts →
        Forces (.run kind nonempty .longest :: shape) (part :: parts)

theorem forces_long_iff {kind : RunKind} {nonempty : Bool} {part : List Char} :
    Shape.Forces (.run kind nonempty .longest :: shape) (part :: parts) ↔
      (Piece.run kind nonempty .longest).Fits part ∧
        (∀ c ∈ parts.flatten.head?, kind.accepts c = false) ∧ shape.Forces parts := by
  constructor
  · intro h
    cases h with
    | long hfits hstops hrest => exact ⟨hfits, hstops, hrest⟩
  · rintro ⟨hfits, hstops, hrest⟩
    exact .long hfits hstops hrest

theorem takes_length {part : List Char} {rest : List Char → Prop} (hfits : p.Fits part)
    (hrest : rest s) : p.Takes rest (part ++ s) part.length :=
  ⟨by simp, by rwa [List.take_left], by rwa [List.drop_left]⟩

theorem isPreferred_part {part : List Char}
    (hchoice : p.IsChoice shape.Covers (part ++ parts.flatten) (some part.length))
    (h : shape.IsPreferred parts.flatten (some parts)) :
    Shape.IsPreferred (p :: shape) (part :: parts).flatten (some (part :: parts)) := by
  have hcut : Shape.IsPreferred (p :: shape) (part ++ parts.flatten)
      ((some parts).map ((part ++ parts.flatten).take part.length :: ·)) :=
    isPreferred_cons hchoice (by rwa [List.drop_left])
  rwa [List.take_left] at hcut

/-! ## The part that a run takes -/

section Run

variable {kind : RunKind} {nonempty : Bool} {part : List Char}

/-- A run that is kept short takes a part inside which the rest of the shape cannot begin. -/
theorem isChoice_short (hfits : (Piece.run kind nonempty .shortest).Fits part)
    (hcovers : shape.Covers s) (hlater : ∀ n < part.length, ¬ shape.Covers (part.drop n ++ s)) :
    (Piece.run kind nonempty .shortest).IsChoice shape.Covers (part ++ s) (some part.length) := by
  refine ⟨takes_length hfits hcovers, fun n hn => ?_⟩
  rcases Nat.lt_trichotomy n part.length with hlt | heq | hlt
  · have hleft := hn.leaves
    rw [List.drop_append_of_le_length (Nat.le_of_lt hlt)] at hleft
    exact absurd hleft (hlater n hlt)
  · exact .inl heq
  · exact .inr hlt

/-- The next piece cannot begin inside a part without its first characters. -/
theorem isChoice_short_of_avoids (hfits : (Piece.run kind nonempty .shortest).Fits part)
    (hcovers : Shape.Covers (p :: shape) s) (hsolid : p.IsSolid) (havoids : ∀ c ∈ part, ¬ p.Opens c) :
    (Piece.run kind nonempty .shortest).IsChoice (Shape.Covers (p :: shape)) (part ++ s)
      (some part.length) := by
  refine isChoice_short hfits hcovers fun n hn hleft => ?_
  rw [List.drop_eq_getElem_cons hn] at hleft
  exact havoids _ (List.getElem_mem hn) (hleft.opens hsolid)

/-- The last piece of a shape takes the rest of the text. -/
theorem isChoice_short_last (hfits : (Piece.run kind nonempty .shortest).Fits part) :
    (Piece.run kind nonempty .shortest).IsChoice (Shape.Covers []) (part ++ []) (some part.length) := by
  refine isChoice_short hfits (covers_nil_iff.mpr rfl) fun n hn hleft => ?_
  rw [covers_nil_iff, List.append_nil, List.drop_eq_nil_iff] at hleft
  omega

/-- A run that is made long takes a part if it can take no more. -/
theorem isChoice_long (hfits : (Piece.run kind nonempty .longest).Fits part)
    (hcovers : shape.Covers s) (hmore : ∀ n, part.length < n →
      ¬ (Piece.run kind nonempty .longest).Takes shape.Covers (part ++ s) n) :
    (Piece.run kind nonempty .longest).IsChoice shape.Covers (part ++ s) (some part.length) := by
  refine ⟨takes_length hfits hcovers, fun n hn => ?_⟩
  rcases Nat.lt_trichotomy n part.length with hlt | heq | hlt
  · exact .inr hlt
  · exact .inl heq
  · exact absurd hn (hmore n hlt)

/-- A run does not go on with a character that it does not accept. -/
theorem isChoice_long_of_stops (hfits : (Piece.run kind nonempty .longest).Fits part)
    (hcovers : shape.Covers s) (hstops : ∀ c ∈ s.head?, kind.accepts c = false) :
    (Piece.run kind nonempty .longest).IsChoice shape.Covers (part ++ s) (some part.length) := by
  refine isChoice_long hfits hcovers fun n hlt hn => ?_
  obtain ⟨k, rfl⟩ : ∃ k, n = part.length + (k + 1) := ⟨n - part.length - 1, by omega⟩
  have hle := hn.le
  rw [List.length_append] at hle
  obtain ⟨c, rest, hs⟩ := List.exists_cons_of_length_pos (show 0 < s.length by omega)
  have hc := hn.fits.2 c (by rw [List.take_length_add_append, hs]; simp)
  rw [hstops c (by rw [hs]; rfl)] at hc
  exact absurd hc (by decide)

/-- A run leaves as many characters as the rest of the shape needs. -/
theorem isChoice_long_of_least (hfits : (Piece.run kind nonempty .longest).Fits part)
    (hcovers : shape.Covers s) (hleast : s.length ≤ shape.leastLength) :
    (Piece.run kind nonempty .longest).IsChoice shape.Covers (part ++ s) (some part.length) := by
  refine isChoice_long hfits hcovers fun n hlt hn => ?_
  have hle := hn.le
  have hneeds := hn.leaves.leastLength_le
  rw [List.length_append] at hle
  rw [List.length_drop, List.length_append] at hneeds
  omega

end Run

/-- **A cut that is forced is the preferred one.** -/
theorem Shape.Forces.isPreferred (h : shape.Forces parts) :
    shape.IsPreferred parts.flatten (some parts) := by
  induction h with
  | done => exact ⟨.done, fun others h => .inl (isCut_nil_iff.mp h).2⟩
  | literal _ ih =>
    exact isPreferred_part
      ⟨takes_length rfl ⟨_, ih.1⟩, fun n hn => .inl (takes_literal.mp hn).1⟩ ih
  | short hfits hsolid havoids _ ih =>
    exact isPreferred_part (isChoice_short_of_avoids hfits ⟨_, ih.1⟩ hsolid havoids) ih
  | long hfits hstops _ ih =>
    exact isPreferred_part (isChoice_long_of_stops hfits ⟨_, ih.1⟩ hstops) ih

end LogIntake
