import LogIntake.Proofs.Shape.Forced
import LogIntake.Proofs.Timestamp.Gaps

/-!
# Timestamps at the start of a line

The runs of letters of a timestamp pattern take as much as they can, so a timestamp at the start of a
line may reach over what separates it from the message.

* `Piece.IsOfPattern`: the pieces of the shape of a timestamp.
* `SameBlanks`: texts in one such shape agree in their gaps and in all other white space.
* `exists_longer_run`: the last run of a timestamp can reach as far as that of any other timestamp at
  the start of the line.
* **`Shape.IsPreferred.longest`**: a timestamp takes the longest beginning of a line after which the rest
  of the template fits.
* **`captures?_stamp_message`**: the captures of a timestamp, a separator and a message.
-/

namespace LogIntake

open Text

/-! ## The shape of a timestamp -/

/-- A fixed text, or a run of characters without white space or of blanks and tabs, which takes as much
as it can. -/
def Piece.IsOfPattern : Piece → Prop
  | .literal _ => True
  | .run kind nonempty reach => (kind = .solid ∨ kind = .gap) ∧ nonempty = true ∧ reach = .longest

namespace Timestamp

theorem isOfPattern_consShape {c : Char} {shape : Shape} (h : ∀ p ∈ shape, p.IsOfPattern) :
    ∀ p ∈ consShape c shape, p.IsOfPattern := by
  have hgap : (Piece.run .gap true .longest).IsOfPattern := ⟨.inr rfl, rfl, rfl⟩
  have hliteral : ∀ text, (Piece.literal text).IsOfPattern := fun _ => trivial
  unfold consShape
  rcases shape with _ | ⟨text | ⟨kind, nonempty, reach⟩, shape⟩ <;> dsimp only <;> split
  · exact List.forall_mem_singleton.mpr hgap
  · exact List.forall_mem_singleton.mpr (hliteral _)
  · exact List.forall_mem_cons.mpr ⟨hgap, h⟩
  · exact List.forall_mem_cons.mpr ⟨hliteral _, (List.forall_mem_cons.mp h).2⟩
  · exact h
  · exact List.forall_mem_cons.mpr ⟨hliteral _, h⟩

theorem Token.isOfPattern_shape (token : Token) : ∀ p ∈ token.shape, p.IsOfPattern := by
  cases token with
  | letters letter count => exact List.forall_mem_singleton.mpr ⟨.inl rfl, rfl, rfl⟩
  | literal text =>
    change ∀ p ∈ text.foldr consShape [], p.IsOfPattern
    induction text with
    | nil => exact fun p hp => absurd hp List.not_mem_nil
    | cons c text ih => exact isOfPattern_consShape ih

theorem Format.isOfPattern_shape (format : Format) : ∀ p ∈ format.shape, p.IsOfPattern := by
  intro p hp
  obtain ⟨token, _, hp⟩ := List.mem_flatMap.mp hp
  exact token.isOfPattern_shape p hp

/-! ## White space -/

/-- The white space of a text that is neither a blank nor a tab. -/
def otherBlanks (s : List Char) : List Char :=
  s.filter fun c => isBlank c && !isGap c

/-- Two texts with the same gaps and the same other white space. -/
structure SameBlanks (s t : List Char) : Prop where
  gaps : SameGaps s t
  others : otherBlanks s = otherBlanks t

variable {s t more : List Char} {c : Char} {kind : RunKind}

theorem SameBlanks.append {s' t' : List Char} (h : SameBlanks s t) (h' : SameBlanks s' t') :
    SameBlanks (s ++ s') (t ++ t') := by
  refine ⟨h.gaps.append h'.gaps, ?_⟩
  unfold otherBlanks
  rw [List.filter_append, List.filter_append]
  exact congrArg₂ (· ++ ·) h.others h'.others

theorem otherBlanks_eq_nil (h : ∀ c ∈ s, isBlank c = false ∨ isGap c = true) : otherBlanks s = [] := by
  refine List.filter_eq_nil_iff.mpr fun c hc => ?_
  rcases h c hc with hblank | hgap
  · simp [hblank]
  · simp [hgap]

theorem sameBlanks_of_fits {p : Piece} (hp : p.IsOfPattern) (hs : p.Fits s) (ht : p.Fits t) :
    SameBlanks s t := by
  cases p with
  | literal text =>
    obtain rfl : s = text := hs
    obtain rfl : t = s := ht
    exact ⟨.refl t, rfl⟩
  | run kind nonempty reach =>
    obtain ⟨hkind, rfl, rfl⟩ := hp
    have hs' := fits_nonempty_iff.mp hs
    have ht' := fits_nonempty_iff.mp ht
    rcases hkind with rfl | rfl
    · have hsolid : ∀ {c : Char}, RunKind.solid.accepts c = true → isBlank c = false := fun hc => by
        simpa [RunKind.accepts] using hc
      refine ⟨.of_solid ⟨hs'.1, fun c hc => isGap_eq_false_of_isBlank (hsolid (hs'.2 c hc))⟩
        ⟨ht'.1, fun c hc => isGap_eq_false_of_isBlank (hsolid (ht'.2 c hc))⟩, ?_⟩
      rw [otherBlanks_eq_nil fun c hc => .inl (hsolid (hs'.2 c hc)),
        otherBlanks_eq_nil fun c hc => .inl (hsolid (ht'.2 c hc))]
    · refine ⟨.of_gap hs' ht', ?_⟩
      rw [otherBlanks_eq_nil fun c hc => .inr (hs'.2 c hc),
        otherBlanks_eq_nil fun c hc => .inr (ht'.2 c hc)]

/-- Two texts in the shape of one timestamp have the same white space. -/
theorem sameBlanks_of_covers {shape : Shape} (hshape : ∀ p ∈ shape, p.IsOfPattern)
    (hs : shape.Covers s) (ht : shape.Covers t) : SameBlanks s t := by
  induction shape generalizing s t with
  | nil =>
    rw [covers_nil_iff.mp hs, covers_nil_iff.mp ht]
    exact ⟨.refl [], rfl⟩
  | cons p shape ih =>
    obtain ⟨hp, hshape⟩ := List.forall_mem_cons.mp hshape
    obtain ⟨part, left, rfl, hpart, hleft⟩ := covers_cons_iff.mp hs
    obtain ⟨part', left', rfl, hpart', hleft'⟩ := covers_cons_iff.mp ht
    exact (sameBlanks_of_fits hp hpart hpart').append (ih hshape hleft hleft')

theorem not_gap_of_no_start (h : gapStarts false s = 0) : ∀ c ∈ s, isGap c = false := by
  induction s with
  | nil => exact fun c hc => absurd hc List.not_mem_nil
  | cons c s ih =>
    rw [gapStarts] at h
    cases hc : isGap c with
    | true =>
      rw [hc, if_pos rfl] at h
      exact absurd h (by simp)
    | false =>
      rw [hc, if_neg Bool.false_ne_true] at h
      exact List.forall_mem_cons.mpr ⟨hc, ih h⟩

/-- What a text with the same white space has more is of one kind, if its first character is. -/
theorem SameBlanks.accepts_more (h : SameBlanks s (s ++ more)) (hkind : kind = .solid ∨ kind = .gap)
    (hhead : ∀ c ∈ more.head?, kind.accepts c = true) : ∀ c ∈ more, kind.accepts c = true := by
  rcases hkind with rfl | rfl
  · have hstarts := (h.gaps false).1
    rw [gapStarts_append] at hstarts
    have hothers : otherBlanks more = [] := by
      have := h.others
      unfold otherBlanks at this ⊢
      rw [List.filter_append] at this
      simpa using this
    cases more with
    | nil => exact fun c hc => absurd hc List.not_mem_nil
    | cons c more =>
      have hc : isGap c = false := by
        have hsolid : RunKind.solid.accepts c = true := hhead c rfl
        exact isGap_eq_false_of_isBlank (by simpa [RunKind.accepts] using hsolid)
      have hzero : gapStarts false more = 0 := by
        rw [gapStarts, hc, if_neg Bool.false_ne_true] at hstarts
        omega
      intro d hd
      have hgap : isGap d = false := by
        rcases List.mem_cons.mp hd with rfl | hd
        · exact hc
        · exact not_gap_of_no_start hzero d hd
      have hblank := List.filter_eq_nil_iff.mp hothers d hd
      simpa [RunKind.accepts, hgap] using hblank
  · exact gaps_of_sameGaps h.gaps hhead

end Timestamp

/-! ## The last run -/

variable {a b front tail : Shape} {s t u v own own' : List Char} {parts : List (List Char)} {p : Piece}

/-- A fixed text. -/
def Piece.IsFixed : Piece → Prop
  | .literal _ => True
  | .run _ _ _ => False

theorem eq_of_covers_fixed (h : ∀ p ∈ a, p.IsFixed) (hs : a.Covers s) (ht : a.Covers t) : s = t := by
  induction a generalizing s t with
  | nil => rw [covers_nil_iff.mp hs, covers_nil_iff.mp ht]
  | cons p a ih =>
    obtain ⟨hp, ha⟩ := List.forall_mem_cons.mp h
    obtain ⟨part, left, rfl, hpart, hleft⟩ := covers_cons_iff.mp hs
    obtain ⟨part', left', rfl, hpart', hleft'⟩ := covers_cons_iff.mp ht
    cases p with
    | literal text =>
      obtain rfl : part = text := hpart
      obtain rfl : part' = part := hpart'
      rw [ih ha hleft hleft']
    | run kind nonempty reach => exact hp.elim

/-- A shape ends in fixed texts, behind its last run if there is one. -/
theorem exists_last_run (a : Shape) : (∀ p ∈ a, p.IsFixed) ∨
    ∃ front kind nonempty reach tail, a = front ++ .run kind nonempty reach :: tail ∧
      ∀ p ∈ tail, p.IsFixed := by
  induction a with
  | nil => exact .inl fun p hp => absurd hp List.not_mem_nil
  | cons p a ih =>
    rcases ih with hfixed | ⟨front, kind, nonempty, reach, tail, rfl, htail⟩
    · cases p with
      | literal text => exact .inl (List.forall_mem_cons.mpr ⟨trivial, hfixed⟩)
      | run kind nonempty reach => exact .inr ⟨[], kind, nonempty, reach, a, rfl, hfixed⟩
    · exact .inr ⟨p :: front, kind, nonempty, reach, tail, rfl, htail⟩

/-- Where the last run of one timestamp ends further than that of another at the start of the same
text, the other one can reach as far. -/
theorem exists_longer_run {kind : RunKind} {left left' : List Char}
    (hblanks : Timestamp.SameBlanks u v) (hkind : kind = .solid ∨ kind = .gap) (hown : own ≠ [])
    (haccepts : ∀ c ∈ own, kind.accepts c = true) (haccepts' : ∀ c ∈ own', kind.accepts c = true)
    (htext : u ++ (own ++ left) = v ++ (own' ++ left'))
    (hlonger : u.length + own.length < v.length + own'.length) :
    ∃ longer, v ++ own' = u ++ longer ∧ own.length < longer.length ∧
      ∀ c ∈ longer, kind.accepts c = true := by
  rcases List.append_eq_append_iff.mp htext with ⟨more, rfl, hmore⟩ | ⟨more, rfl, hmore⟩
  · have hhead : ∀ c ∈ more.head?, kind.accepts c = true := by
      intro c hc
      obtain ⟨d, own, rfl⟩ := List.exists_cons_of_ne_nil hown
      obtain ⟨later, rfl⟩ := List.head?_eq_some_iff.mp hc
      obtain rfl : d = c := (List.cons.inj hmore).1
      exact haccepts d List.mem_cons_self
    have hmore' := hblanks.accepts_more hkind hhead
    refine ⟨more ++ own', List.append_assoc .., ?_, List.forall_mem_append.mpr ⟨hmore', haccepts'⟩⟩
    rw [List.length_append] at hlonger ⊢
    omega
  · rw [List.length_append] at hlonger
    rcases List.append_eq_append_iff.mp hmore with ⟨_, rfl, _⟩ | ⟨longer, rfl, _⟩
    · rw [List.length_append] at hlonger
      omega
    · refine ⟨longer, (List.append_assoc ..).symm, ?_, (List.forall_mem_append.mp haccepts').2⟩
      rw [List.length_append] at hlonger
      omega

/-- Of two cuts that agree up to a run that takes as much as it can, the preferred one has the longer
run. -/
theorem Shape.IsPreferred.run_length_le {kind : RunKind} {nonempty : Bool}
    {first later others : List (List Char)} (hfirst : first.length = front.length)
    (h : Shape.IsPreferred (front ++ .run kind nonempty .longest :: tail) s
      (some (first ++ own :: later)))
    (hcut : IsCut (front ++ .run kind nonempty .longest :: tail) s (first ++ own' :: others)) :
    own'.length ≤ own.length := by
  rcases h.2 _ hcut with heq | hprefers
  · have hsame : own' = own := (List.cons.inj (List.append_cancel_left heq)).1
    rw [hsame]
  · cases prefers_append_left hfirst hprefers with
    | here hp => exact Nat.le_of_lt hp
    | later hsame _ => exact Nat.le_of_eq hsame.symm

/-- The run of the preferred cut ends as far as that of any other cut with the same white space in front
of it, if the run takes as much as it can. -/
theorem Shape.IsPreferred.end_of_run_le {kind : RunKind} {left rest : List Char}
    {first later : List (List Char)} (hkind : kind = .solid ∨ kind = .gap)
    (h : Shape.IsPreferred (front ++ .run kind true .longest :: tail) (v ++ (own' ++ rest))
      (some (first ++ own :: later)))
    (hu : IsCut front u first) (hblanks : Timestamp.SameBlanks u v)
    (hline : v ++ (own' ++ rest) = u ++ (own ++ left))
    (hown : (Piece.run kind true .longest).Fits own)
    (hown' : (Piece.run kind true .longest).Fits own') (hrest : tail.Covers rest) :
    v.length + own'.length ≤ u.length + own.length := by
  by_contra hshort
  obtain ⟨hne, haccepts⟩ := fits_nonempty_iff.mp hown
  obtain ⟨longer, hlonger, hlength, hlonger'⟩ := exists_longer_run hblanks hkind hne haccepts
    (fits_nonempty_iff.mp hown').2 hline.symm (Nat.lt_of_not_le hshort)
  have hfits : (Piece.run kind true .longest).Fits longer := by
    refine fits_nonempty_iff.mpr ⟨?_, hlonger'⟩
    rintro rfl
    exact absurd hlength (Nat.not_lt_zero _)
  -- the run of this cut could have been the longer one
  obtain ⟨others, hothers⟩ := hrest
  have hcut := hu.append (.part hfits hothers)
  rw [← List.append_assoc u, ← hlonger, List.append_assoc v] at hcut
  exact absurd hlength (Nat.not_lt_of_le (h.run_length_le hu.length_eq hcut))

/-! ## The longest timestamp -/

/-- A timestamp at the start of a line takes the longest beginning after which the rest of the template
fits. -/
theorem Shape.IsPreferred.longest (ha : ∀ p ∈ a, p.IsOfPattern)
    (h : Shape.IsPreferred (a ++ b) (s ++ t) (some parts)) (hs : a.Covers s) (ht : b.Covers t) :
    s.length ≤ (parts.take a.length).flatten.length := by
  obtain ⟨s₁, s₂, hline, h₁, _⟩ := isCut_append_iff.mp h.1
  rw [h₁.flatten]
  rcases exists_last_run a with hfixed | ⟨front, kind, nonempty, reach, tail, rfl, htail⟩
  · rw [eq_of_covers_fixed hfixed hs ⟨_, h₁⟩]
  · obtain ⟨hfront, hrun⟩ := List.forall_mem_append.mp ha
    obtain ⟨⟨hkind, rfl, rfl⟩, _⟩ := List.forall_mem_cons.mp hrun
    have hparts := (List.take_append_drop (front ++ .run kind true .longest :: tail).length parts).symm
    generalize parts.take (front ++ .run kind true .longest :: tail).length = found at h₁ hparts
    generalize parts.drop (front ++ .run kind true .longest :: tail).length = others at hparts
    -- the preferred cut and the other one, each split at its last run
    obtain ⟨u, _, rfl, hu, hrest⟩ := isCut_append_iff.mp h₁
    obtain ⟨own, later, hown, hdrop, x, rfl, hx⟩ := isCut_cons_iff.mp hrest
    obtain ⟨v, _, rfl, hv, hrest'⟩ := covers_append_iff.mp hs
    obtain ⟨own', x', rfl, hown', hx'⟩ := covers_cons_iff.mp hrest'
    obtain rfl : x' = x := eq_of_covers_fixed htail hx' ⟨_, hx⟩
    rw [← List.take_append_drop front.length found, hdrop] at hparts
    generalize found.take front.length = first at hu hparts
    rw [hparts] at h
    simp only [List.append_assoc, List.cons_append] at h hline
    have hle := h.end_of_run_le hkind hu (Timestamp.sameBlanks_of_covers hfront ⟨_, hu⟩ hv) hline hown
      hown' (covers_append_iff.mpr ⟨_, _, rfl, hx', ht⟩)
    simp only [List.length_append]
    omega

/-! ## A timestamp, a separator and a message -/

namespace Timestamp

/-- A run of letters is rendered as any text without white space that is not empty, and a fixed text as
it is. -/
def Token.IsRendered : Token → List Char → Prop
  | .letters _ _, piece => piece ≠ [] ∧ IsSolidText piece
  | .literal text, piece => piece = text

instance (token : Token) (piece : List Char) : Decidable (token.IsRendered piece) :=
  match token with
  | .letters _ _ => inferInstanceAs (Decidable (IsSolid piece))
  | .literal text => inferInstanceAs (Decidable (piece = text))

/-- A text that is rendered in a pattern. -/
def Format.IsRendered (format : Format) (stamp : List Char) : Prop :=
  ∃ pieces, stamp = pieces.flatten ∧ List.Forall₂ Token.IsRendered format.tokens pieces

theorem Format.IsRendered.stands {format : Format} {stamp : List Char} (h : format.IsRendered stamp) :
    (TimestampParser.absolute format).Stands stamp := by
  obtain ⟨pieces, rfl, hpieces⟩ := h
  refine ⟨pieces, rfl, hpieces.imp fun token piece hpiece => ?_⟩
  cases token with
  | letters letter count => exact hpiece
  | literal text =>
    obtain rfl : piece = text := hpiece
    exact .refl piece

end Timestamp

namespace Template

variable {format : Timestamp.Format} {template : Template} {separator : List Char} {line : String}
  {stamp message : List Char}

/-- What stands behind a timestamp. -/
def messageShape (separator : List Char) : Shape :=
  [.literal separator, .run .anyInLine false .longest]

theorem isCut_messageShape_iff : IsCut (messageShape separator) t parts ↔
    ∃ message, t = separator ++ message ∧ '\n' ∉ message ∧ parts = [separator, message] := by
  constructor
  · intro h
    obtain ⟨head, _, hhead, rfl, _, rfl, hrest⟩ := isCut_cons_iff.mp h
    obtain ⟨message, _, hmessage, rfl, _, rfl, hend⟩ := isCut_cons_iff.mp hrest
    obtain ⟨rfl, rfl⟩ := isCut_nil_iff.mp hend
    obtain rfl : head = separator := hhead
    exact ⟨message, by rw [List.append_nil], fits_inLine_iff.mp hmessage, rfl⟩
  · rintro ⟨message, rfl, hmessage, rfl⟩
    have hfits : (Piece.run .anyInLine false .longest).Fits message := fits_inLine_iff.mpr hmessage
    have hcut : IsCut (messageShape separator) (separator ++ (message ++ [])) [separator, message] :=
      .part rfl (.part hfits .done)
    rwa [List.append_nil] at hcut

/-- The timestamp of a line is the longest beginning in its shape that the separator follows, and the
message is what follows then. -/
theorem captures?_longest
    (htokens : template.tokens = [.field .timestamp, .literal separator, .field .message])
    (hshape : template.timestampShape = some (TimestampParser.absolute format).shape)
    (hline : line.toList = stamp ++ (separator ++ message))
    (hstamp : (TimestampParser.absolute format).Stands stamp) (hmessage : '\n' ∉ message) :
    ∃ longest later, line.toList = longest ++ (separator ++ later) ∧
      (TimestampParser.absolute format).Stands longest ∧
      template.captures? line =
        some [(.timestamp, String.ofList longest), (.message, String.ofList later)] ∧
      ∀ other rest, line.toList = other ++ (separator ++ rest) →
        (TimestampParser.absolute format).Stands other → '\n' ∉ rest →
        other.length ≤ longest.length := by
  have hwhole : template.shape = format.shape ++ messageShape separator := by
    rw [shape, htokens, hshape]
    rfl
  have hcovers : ∀ other rest, (TimestampParser.absolute format).Stands other → '\n' ∉ rest →
      format.shape.Covers other ∧ (messageShape separator).Covers (separator ++ rest) :=
    fun other rest hother hrest => ⟨(TimestampParser.covers_iff (.absolute format)).mpr hother, _,
      isCut_messageShape_iff.mpr ⟨rest, rfl, hrest, rfl⟩⟩
  have hsome : (template.shape.cut? line.toList).isSome = true := by
    rw [Shape.isSome_cut?_iff, hwhole, hline]
    exact covers_append_iff.mpr ⟨_, _, rfl, hcovers stamp message hstamp hmessage⟩
  obtain ⟨parts, hparts⟩ := Option.isSome_iff_exists.mp hsome
  have hpreferred := template.shape.isPreferred_cut? line.toList
  rw [hparts, hwhole] at hpreferred
  obtain ⟨longest, _, hsplit, hlongest, hrest⟩ := isCut_append_iff.mp hpreferred.1
  obtain ⟨later, rfl, hlater, hdrop⟩ := isCut_messageShape_iff.mp hrest
  refine ⟨longest, later, hsplit, (TimestampParser.covers_iff (.absolute format)).mp ⟨_, hlongest⟩,
    ?_, fun other rest hother hstands hrest => ?_⟩
  · have hcaptured : captureParts (some (TimestampParser.absolute format).shape)
        [.field .timestamp, .literal separator, .field .message] parts =
          [(.timestamp, String.ofList (parts.take format.shape.length).flatten),
            (.message, String.ofList ((parts.drop format.shape.length).drop 1 |>.take 1).flatten)] := rfl
    rw [captures?, hparts, Option.map_some, htokens, hshape, hcaptured, hlongest.flatten, hdrop]
    simp
  · obtain ⟨hother', hrest'⟩ := hcovers other rest hstands hrest
    rw [hother] at hpreferred
    have hle := hpreferred.longest format.isOfPattern_shape hother' hrest'
    rwa [hlongest.flatten] at hle

/-- What follows a further separator ends the message. -/
theorem suffix_of_separated {more rest : List Char}
    (h : separator ++ message = more ++ (separator ++ rest)) : rest <:+ message := by
  have hlength := congrArg List.length h
  simp only [List.length_append] at hlength
  have hrest : rest <:+ separator ++ message := ⟨more ++ separator, by rw [h, List.append_assoc]⟩
  exact List.suffix_of_suffix_length_le hrest (List.suffix_append separator message) (by omega)

/-- **A timestamp that is rendered in its pattern is captured, and the message behind the separator,
unless a longer beginning of the line in the shape of the pattern has the separator behind it**: the
captured timestamp is the longest such beginning. -/
theorem captures?_stamp_message {text : String}
    (htemplate : compile text (some (TimestampParser.absolute format).shape) = .ok template)
    (htokens : template.tokens = [.field .timestamp, .literal separator, .field .message])
    (hstamp : format.IsRendered stamp) (hmessage : '\n' ∉ message)
    (hline : line.toList = stamp ++ (separator ++ message)) :
    (template.captures? line =
        some [(.timestamp, String.ofList stamp), (.message, String.ofList message)] ↔
      ∀ more rest, separator ++ message = more ++ (separator ++ rest) →
        (TimestampParser.absolute format).Stands (stamp ++ more) → more = []) ∧
    ∃ longest later, line.toList = longest ++ (separator ++ later) ∧
      (TimestampParser.absolute format).Stands longest ∧
      template.captures? line =
        some [(.timestamp, String.ofList longest), (.message, String.ofList later)] ∧
      ∀ other rest, line.toList = other ++ (separator ++ rest) →
        (TimestampParser.absolute format).Stands other → '\n' ∉ rest →
        other.length ≤ longest.length := by
  obtain ⟨_, hshape, _⟩ := compile_ok htemplate
  have hfound := captures?_longest htokens hshape hline hstamp.stands hmessage
  refine ⟨?_, hfound⟩
  obtain ⟨longest, later, hsplit, hstands, hcaptures, hmost⟩ := hfound
  constructor
  · intro hcaptured more rest heq hmore
    have hsame : String.ofList longest = String.ofList stamp := by
      rw [hcaptures] at hcaptured
      simpa using (List.cons.inj (Option.some.inj hcaptured)).1
    obtain rfl : longest = stamp := String.ofList_inj.mp hsame
    have hrest : '\n' ∉ rest := fun hmem => hmessage ((suffix_of_separated heq).subset hmem)
    have hle := hmost (longest ++ more) rest (by rw [hline, heq, List.append_assoc]) hmore hrest
    rw [List.length_append] at hle
    exact List.eq_nil_of_length_eq_zero (by omega)
  · intro hnone
    have hle := hmost stamp message hline hstamp.stands hmessage
    obtain ⟨more, rfl⟩ : stamp <+: longest :=
      List.prefix_of_prefix_length_le ⟨_, hline.symm⟩ ⟨_, hsplit.symm⟩ hle
    have heq : separator ++ message = more ++ (separator ++ later) := by
      rw [hline, List.append_assoc] at hsplit
      exact List.append_cancel_left hsplit
    obtain rfl := hnone more later heq hstands
    obtain rfl : message = later := List.append_cancel_left heq
    rwa [List.append_nil] at hcaptures

/-- A timestamp does not reach over a blank to a further separator. -/
theorem captures?_stamp_message_blank :
    ∃ format template, Timestamp.Format.compile "HH:mm" = .ok format ∧
      compile "TIMESTAMP|MESSAGE" (some (TimestampParser.absolute format).shape) = .ok template ∧
      template.captures? "10:20|a b|c" = some [(.timestamp, "10:20"), (.message, "a b|c")] ∧
      ∀ more rest, "|a b|c".toList = more ++ ('|' :: rest) →
        (TimestampParser.absolute format).Stands ("10:20".toList ++ more) → more = [] := by
  let format : Timestamp.Format := ⟨"HH:mm", [.letters 'H' 2, .literal [':'], .letters 'm' 2],
    [.read .hour, .expect [':'], .read .minute]⟩
  let template : Template := ⟨"TIMESTAMP|MESSAGE",
    [.field .timestamp, .literal ['|'], .field .message], some (TimestampParser.absolute format).shape⟩
  have htemplate : compile "TIMESTAMP|MESSAGE" (some (TimestampParser.absolute format).shape) =
      .ok template := rfl
  have hstamp : format.IsRendered "10:20".toList :=
    ⟨[['1', '0'], [':'], ['2', '0']], rfl, by decide⟩
  have hmessage : '\n' ∉ "a b|c".toList := by simp
  have hcaptures : template.captures? "10:20|a b|c" =
      some [(.timestamp, "10:20"), (.message, "a b|c")] := by decide
  exact ⟨format, template, rfl, htemplate, hcaptures,
    (captures?_stamp_message htemplate rfl hstamp hmessage rfl).1.mp hcaptures⟩

/-- A timestamp reaches over its separator to a further one. -/
theorem captures?_stamp_reachesOn :
    ∃ format template, Timestamp.Format.compile "HH:mm:ss" = .ok format ∧
      compile "TIMESTAMP|MESSAGE" (some (TimestampParser.absolute format).shape) = .ok template ∧
      template.tokens = [.field .timestamp, .literal ['|'], .field .message] ∧
      format.IsRendered "10:20:30".toList ∧ '|' ∉ "10:20:30".toList ∧ '\n' ∉ "a|b".toList ∧
      template.captures? "10:20:30|a|b" = some [(.timestamp, "10:20:30|a"), (.message, "b")] := by
  let format : Timestamp.Format := ⟨"HH:mm:ss",
    [.letters 'H' 2, .literal [':'], .letters 'm' 2, .literal [':'], .letters 's' 2],
    [.read .hour, .expect [':'], .read .minute, .expect [':'], .read .second]⟩
  refine ⟨format, ⟨"TIMESTAMP|MESSAGE", [.field .timestamp, .literal ['|'], .field .message],
    some (TimestampParser.absolute format).shape⟩, rfl, rfl, rfl, ?_, by simp, by simp, by decide⟩
  exact ⟨[['1', '0'], [':'], ['2', '0'], [':'], ['3', '0']], rfl, by decide⟩

end Template

end LogIntake
