import LogIntake.Proofs.Template.Language
import LogIntake.Proofs.Timestamp.RoundTrip

/-!
# Where a timestamp ends

All texts in the shape of a timestamp have the same number of gaps, and a line tells a timestamp from
what follows it by counting them.

* `gapStarts`, `endsInGap`: the number of gaps of a text, and whether it ends in one.
* `Format.Stands.gaps`: the texts in the shape of a timestamp agree in both.
* `gaps_of_no_start`: a text that begins no further gap after one.
* **`ends_alike`**: two such texts at the start of a line, each with a gap after it, differ at most in
  how much of this gap they take.
* `stands_write`: what is written along a pattern is in its shape.
-/

namespace LogIntake.Timestamp

open Calendar Text

/-! ## Counting gaps -/

/-- How many gaps begin in a text, where `inGap` says whether a gap stands before it. -/
def gapStarts (inGap : Bool) : List Char → Nat
  | [] => 0
  | c :: s => if isGap c then (if inGap then 0 else 1) + gapStarts true s else gapStarts false s

/-- Whether a gap stands before what follows a text. -/
def endsInGap (inGap : Bool) (s : List Char) : Bool :=
  (s.getLast?.map isGap).getD inGap

variable {inGap : Bool} {c : Char} {s t : List Char}

theorem endsInGap_cons (inGap : Bool) (c : Char) (s : List Char) :
    endsInGap inGap (c :: s) = endsInGap (isGap c) s := by
  unfold endsInGap
  rw [List.getLast?_cons]
  cases s.getLast? <;> rfl

theorem endsInGap_append (inGap : Bool) (s t : List Char) :
    endsInGap inGap (s ++ t) = endsInGap (endsInGap inGap s) t := by
  induction s generalizing inGap with
  | nil => rfl
  | cons c s ih => rw [List.cons_append, endsInGap_cons, endsInGap_cons, ih]

theorem gapStarts_append (inGap : Bool) (s t : List Char) :
    gapStarts inGap (s ++ t) = gapStarts inGap s + gapStarts (endsInGap inGap s) t := by
  induction s generalizing inGap with
  | nil => exact (Nat.zero_add _).symm
  | cons c s ih =>
    rw [List.cons_append, endsInGap_cons, gapStarts, gapStarts]
    cases h : isGap c with
    | true => rw [if_pos rfl, if_pos rfl, ih, Nat.add_assoc]
    | false => rw [if_neg Bool.false_ne_true, if_neg Bool.false_ne_true, ih]

/-- Two texts with as many gaps, of which both or none end in one. -/
def SameGaps (s t : List Char) : Prop :=
  ∀ inGap, gapStarts inGap s = gapStarts inGap t ∧ endsInGap inGap s = endsInGap inGap t

theorem SameGaps.refl (s : List Char) : SameGaps s s := fun _ => ⟨rfl, rfl⟩

theorem SameGaps.symm (h : SameGaps s t) : SameGaps t s := fun inGap =>
  ⟨(h inGap).1.symm, (h inGap).2.symm⟩

theorem SameGaps.append {s' t' : List Char} (h : SameGaps s t) (h' : SameGaps s' t') :
    SameGaps (s ++ s') (t ++ t') := by
  intro inGap
  obtain ⟨hstarts, hends⟩ := h inGap
  rw [gapStarts_append, gapStarts_append, endsInGap_append, endsInGap_append, hstarts, hends]
  obtain ⟨hstarts', hends'⟩ := h' (endsInGap inGap t)
  exact ⟨by rw [hstarts'], hends'⟩

/-- A text without gaps. -/
theorem gaps_of_solid (hs : s ≠ []) (h : ∀ c ∈ s, isGap c = false) (inGap : Bool) :
    gapStarts inGap s = 0 ∧ endsInGap inGap s = false := by
  induction s generalizing inGap with
  | nil => exact absurd rfl hs
  | cons c s ih =>
    obtain ⟨hc, hall⟩ := List.forall_mem_cons.mp h
    rw [endsInGap_cons, gapStarts, hc, if_neg Bool.false_ne_true]
    cases s with
    | nil => exact ⟨rfl, rfl⟩
    | cons d s => exact ih (List.cons_ne_nil d s) hall false

/-- A single gap. -/
theorem gaps_of_gap (h : IsGapText s) (inGap : Bool) :
    gapStarts inGap s = (if inGap then 0 else 1) ∧ endsInGap inGap s = true := by
  obtain ⟨hne, hall⟩ := h
  induction s generalizing inGap with
  | nil => exact absurd rfl hne
  | cons c s ih =>
    obtain ⟨hc, hall⟩ := List.forall_mem_cons.mp hall
    rw [endsInGap_cons, gapStarts, hc, if_pos rfl]
    cases s with
    | nil => exact ⟨rfl, rfl⟩
    | cons d s =>
      obtain ⟨hstarts, hends⟩ := ih true (List.cons_ne_nil d s) hall
      rw [hstarts]
      exact ⟨rfl, hends⟩

theorem SameGaps.of_solid (hs : s ≠ [] ∧ ∀ c ∈ s, isGap c = false)
    (ht : t ≠ [] ∧ ∀ c ∈ t, isGap c = false) : SameGaps s t := by
  intro inGap
  obtain ⟨hstarts, hends⟩ := gaps_of_solid hs.1 hs.2 inGap
  obtain ⟨hstarts', hends'⟩ := gaps_of_solid ht.1 ht.2 inGap
  exact ⟨hstarts.trans hstarts'.symm, hends.trans hends'.symm⟩

theorem SameGaps.of_gap (hs : IsGapText s) (ht : IsGapText t) : SameGaps s t := by
  intro inGap
  obtain ⟨hstarts, hends⟩ := gaps_of_gap hs inGap
  obtain ⟨hstarts', hends'⟩ := gaps_of_gap ht inGap
  exact ⟨hstarts.trans hstarts'.symm, hends.trans hends'.symm⟩

theorem gaps_take_drop (hc : isGap c = true) (s : List Char) :
    c :: s = (c :: s.takeWhile isGap) ++ s.dropWhile isGap ∧ IsGapText (c :: s.takeWhile isGap) := by
  refine ⟨by rw [List.cons_append, List.takeWhile_append_dropWhile], List.cons_ne_nil _ _, ?_⟩
  refine List.forall_mem_cons.mpr ⟨hc, fun d hd => ?_⟩
  exact List.mem_takeWhile_imp hd

/-- The texts of a fixed text have its gaps. -/
theorem Loose.sameGaps {text piece : List Char} (h : Loose text piece) : SameGaps text piece := by
  induction h with
  | done => exact .refl []
  | @same c text piece _ _ ih => exact (SameGaps.refl [c]).append ih
  | @gap c text blanks piece hc hblanks _ ih =>
    obtain ⟨hsplit, hgap⟩ := gaps_take_drop hc text
    rw [hsplit]
    exact (SameGaps.of_gap hgap hblanks).append ih

/-- A fixed text is one of its own texts. -/
theorem Loose.refl (text : List Char) : Loose text text := by
  induction hn : text.length using Nat.strongRecOn generalizing text with
  | ind n ih =>
    subst hn
    cases text with
    | nil => exact .done
    | cons c text =>
      cases hc : isGap c with
      | false => exact .same hc (ih _ (Nat.lt_succ_self _) text rfl)
      | true =>
        obtain ⟨hsplit, hgap⟩ := gaps_take_drop hc text
        have hlen := (List.dropWhile_sublist isGap (l := text)).length_le
        have hcut := Loose.gap hc hgap (ih _ (Nat.lt_succ_of_le hlen) _ rfl)
        rwa [← hsplit] at hcut

/-! ## Timestamps -/

theorem isGap_eq_false_of_isBlank (h : isBlank c = false) : isGap c = false := by
  cases hc : isGap c with
  | false => rfl
  | true => exact absurd (isBlank_of_isGap hc) (by rw [h]; decide)

theorem Token.Stands.sameGaps {token : Token} (hs : token.Stands s) (ht : token.Stands t) :
    SameGaps s t := by
  cases token with
  | letters letter count =>
    exact .of_solid ⟨hs.1, fun c hc => isGap_eq_false_of_isBlank (hs.2 c hc)⟩
      ⟨ht.1, fun c hc => isGap_eq_false_of_isBlank (ht.2 c hc)⟩
  | literal text =>
    intro inGap
    obtain ⟨hstarts, hends⟩ := Loose.sameGaps hs inGap
    obtain ⟨hstarts', hends'⟩ := Loose.sameGaps ht inGap
    exact ⟨hstarts.symm.trans hstarts', hends.symm.trans hends'⟩

/-- The texts that stand for the same tokens have the same gaps. -/
theorem sameGaps_of_stands {tokens : List Token} {pieces pieces' : List (List Char)}
    (h : List.Forall₂ Token.Stands tokens pieces) (h' : List.Forall₂ Token.Stands tokens pieces') :
    SameGaps pieces.flatten pieces'.flatten := by
  induction h generalizing pieces' with
  | nil =>
    cases h'
    exact .refl []
  | cons hpiece _ ih =>
    cases h' with
    | cons hpiece' h' => exact (hpiece.sameGaps hpiece').append (ih h')

/-- A text that begins no gap and ends in one goes on with the gap before it. -/
theorem gaps_of_no_start (hstarts : gapStarts inGap s = 0) (hends : endsInGap inGap s = true) :
    inGap = true ∧ ∀ c ∈ s, isGap c = true := by
  induction s generalizing inGap with
  | nil => exact ⟨hends, fun c hc => absurd hc List.not_mem_nil⟩
  | cons c s ih =>
    rw [endsInGap_cons] at hends
    rw [gapStarts] at hstarts
    cases hc : isGap c with
    | true =>
      rw [hc] at hends hstarts
      rw [if_pos rfl] at hstarts
      obtain ⟨_, hall⟩ := ih (by omega) hends
      refine ⟨?_, List.forall_mem_cons.mpr ⟨hc, hall⟩⟩
      cases inGap with
      | true => rfl
      | false => exact absurd hstarts (by simp)
    | false =>
      rw [hc] at hends hstarts
      exact absurd (ih hstarts hends).1 (by decide)

/-- What a text with the same gaps has more, where a gap follows, belongs to a gap. -/
theorem gaps_of_sameGaps {more : List Char} (h : SameGaps s (s ++ more))
    (hmore : ∀ c ∈ more.head?, isGap c = true) : ∀ c ∈ more, isGap c = true := by
  obtain ⟨hstarts, hends⟩ := h false
  rw [gapStarts_append] at hstarts
  rw [endsInGap_append] at hends
  have hzero : gapStarts (endsInGap false s) more = 0 := by omega
  cases hin : endsInGap false s with
  | true =>
    rw [hin] at hzero hends
    exact (gaps_of_no_start hzero hends.symm).2
  | false =>
    cases more with
    | nil => exact fun c hc => absurd hc List.not_mem_nil
    | cons c more =>
      have hc : isGap c = true := hmore c rfl
      rw [hin, gapStarts, hc, if_pos rfl] at hzero
      exact absurd hzero (by simp)

theorem trim_append_gap {more : List Char} (h : ∀ c ∈ more, isGap c = true) :
    trim (s ++ more) = trim s := by
  rw [trim_eq_trimStart_trimEnd, trim_eq_trimStart_trimEnd,
    trimEnd_append_of_blank fun c hc => isBlank_of_isGap (h c hc)]

/-- **Two texts with the same gaps at the start of a line, each with a gap after it, differ at most in
how much of the gap they take.** -/
theorem ends_alike {rest rest' : List Char} (h : SameGaps s t) (hline : s ++ rest = t ++ rest')
    (hrest : ∀ c ∈ rest.head?, isGap c = true) (hrest' : ∀ c ∈ rest'.head?, isGap c = true) :
    trim s = trim t ∧ ∃ more, (∀ c ∈ more, isGap c = true) ∧
      (rest = more ++ rest' ∨ rest' = more ++ rest) := by
  have hhead : ∀ {more later : List Char}, (∀ c ∈ (more ++ later).head?, isGap c = true) →
      ∀ c ∈ more.head?, isGap c = true := fun {more later} hall c hc =>
    hall c (by rw [List.head?_append, Option.mem_def.mp hc]; rfl)
  rcases List.append_eq_append_iff.mp hline with ⟨more, rfl, rfl⟩ | ⟨more, rfl, rfl⟩
  · have hmore := gaps_of_sameGaps h (hhead hrest)
    exact ⟨(trim_append_gap hmore).symm, more, hmore, .inl rfl⟩
  · have hmore := gaps_of_sameGaps h.symm (hhead hrest')
    exact ⟨trim_append_gap hmore, more, hmore, .inr rfl⟩

/-- What is written along the tokens of a pattern stands for them. -/
theorem stands_write {t : DateTime} (h : IsWritable t) {tokens : List Token}
    (hletters : ∀ letter ∈ letters tokens, letter ∈ writtenLetters) :
    List.Forall₂ Token.Stands tokens (tokens.map (Token.write t)) := by
  rw [List.forall₂_map_right_iff, List.forall₂_same]
  intro token htoken
  cases token with
  | letters letter count =>
    exact h.isSolid_writeLetters count (hletters letter (mem_letters_iff.mpr ⟨count, htoken⟩))
  | literal text => exact .refl text

end LogIntake.Timestamp
