import LogIntake.Proofs.Shape.Cut
import LogIntake.Template.Basic
import LogIntake.Timestamp.Relative

/-!
# The lines that follow a template

* `Loose`: the texts of a fixed text in a timestamp pattern, where any gap stands for a gap.
* `Field.Stands`, `Template.Token.Stands`: the pieces of a line that a field or a token stands for.
* `Template.Token.covers_iff`: the texts that can be cut along the shape of a token are the pieces that
  it stands for.
* `Template.compile_ok`: what is known of a template that has been read.
* **`captures?_iff_pieces`**: a line has captures if and only if it is made of pieces that the tokens
  stand for, and its captures are such pieces.
-/

namespace LogIntake

/-! ## Pieces -/

/-- A nonempty text of blanks and tabs. -/
def IsGapText (piece : List Char) : Prop :=
  piece ≠ [] ∧ ∀ c ∈ piece, Text.isGap c = true

/-- A nonempty text of decimal digits. -/
def IsDigitText (piece : List Char) : Prop :=
  piece ≠ [] ∧ ∀ c ∈ piece, Text.isDecimalDigit c = true

/-- A text without white space. -/
def IsSolidText (piece : List Char) : Prop :=
  ∀ c ∈ piece, Text.isBlank c = false

namespace Timestamp

/-- The texts that a fixed text of a pattern stands for: blanks and tabs in a row stand for any gap,
and all other characters for themselves. -/
inductive Loose : List Char → List Char → Prop where
  | done : Loose [] []
  | same {c : Char} {text piece : List Char} :
      Text.isGap c = false → Loose text piece → Loose (c :: text) (c :: piece)
  | gap {c : Char} {text blanks piece : List Char} :
      Text.isGap c = true → IsGapText blanks → Loose (text.dropWhile Text.isGap) piece →
        Loose (c :: text) (blanks ++ piece)

/-- The texts that a token of a pattern stands for. -/
def Token.Stands : Token → List Char → Prop
  | .letters _ _, piece => piece ≠ [] ∧ IsSolidText piece
  | .literal text, piece => Loose text piece

end Timestamp

/-- The texts that are in the shape of a timestamp. -/
def TimestampParser.Stands : TimestampParser → List Char → Prop
  | .absolute format, piece =>
    ∃ parts, piece = parts.flatten ∧ List.Forall₂ Timestamp.Token.Stands format.tokens parts
  | .relative _, piece => IsDigitText piece

/-- The pieces that a field stands for. Without a parser any text in a line is a timestamp. -/
def Field.Stands (timestamp : Option TimestampParser) : Field → List Char → Prop
  | .message, piece | .thread, piece | .ndc, piece | .method, piece | .prop _, piece => '\n' ∉ piece
  | .timestamp, piece =>
    match timestamp with
    | none => '\n' ∉ piece
    | some parser => parser.Stands piece
  | .relativeTime, piece => IsDigitText piece
  | .logger, piece | .level, piece | .className, piece | .file, piece | .line, piece =>
    IsSolidText piece

/-- The pieces that a token stands for. -/
def Template.Token.Stands (timestamp : Option TimestampParser) : Token → List Char → Prop
  | .field f, piece => f.Stands timestamp piece
  | .wildcard, piece => '\n' ∉ piece
  | .gap, piece => IsGapText piece
  | .literal text, piece => piece = text

/-- A line cut into consecutive pieces, one for each token, that the tokens stand for. -/
structure Template.IsMadeOf (template : Template) (timestamp : Option TimestampParser)
    (line : String) (pieces : List (List Char)) : Prop where
  whole : line.toList = pieces.flatten
  stands : List.Forall₂ (Token.Stands timestamp) template.tokens pieces

/-! ## The shapes of fields and tokens -/

variable {piece : List Char}

theorem fits_inLine_iff {reach : Reach} :
    (Piece.run .anyInLine false reach).Fits piece ↔ '\n' ∉ piece := by
  constructor
  · intro h hmem
    exact absurd (h.2 _ hmem) (by decide)
  · refine fun h => ⟨fun h' => absurd h' (by decide), fun c hc => bne_iff_ne.mpr ?_⟩
    rintro rfl
    exact h hc

theorem fits_solid_iff {reach : Reach} :
    (Piece.run .solid false reach).Fits piece ↔ IsSolidText piece := by
  simp [Piece.Fits, RunKind.accepts, IsSolidText]

theorem fits_nonempty_iff {kind : RunKind} {reach : Reach} : (Piece.run kind true reach).Fits piece ↔
    piece ≠ [] ∧ ∀ c ∈ piece, kind.accepts c = true := by
  simp [Piece.Fits]

namespace Timestamp

/-- A gap in a fixed text takes in all blanks and tabs after it. -/
theorem foldr_consShape_gap {c : Char} (h : Text.isGap c = true) (text : List Char) :
    (c :: text).foldr consShape [] =
      .run .gap true .longest :: (text.dropWhile Text.isGap).foldr consShape [] := by
  induction text generalizing c with
  | nil => simp [consShape, h]
  | cons d text ih =>
    rw [List.foldr_cons]
    by_cases hd : Text.isGap d = true
    · rw [ih hd, List.dropWhile_cons_of_pos hd, consShape, if_pos h]
    · rw [List.dropWhile_cons_of_neg hd, List.foldr_cons]
      generalize text.foldr consShape [] = shape
      rcases shape with _ | ⟨_ | _, shape⟩ <;> simp [consShape, h, hd]

theorem covers_literal_cons_iff {text : List Char} {shape : Shape} :
    Shape.Covers (.literal text :: shape) piece ↔ ∃ left, piece = text ++ left ∧ shape.Covers left := by
  rw [covers_cons_iff]
  constructor
  · rintro ⟨_, left, hs, rfl, hleft⟩
    exact ⟨left, hs, hleft⟩
  · rintro ⟨left, hs, hleft⟩
    exact ⟨text, left, hs, rfl, hleft⟩

/-- A character that is no blank or tab stands for itself. -/
theorem covers_consShape_iff {c : Char} (h : Text.isGap c = false) {shape : Shape} :
    (consShape c shape).Covers piece ↔ ∃ left, piece = c :: left ∧ shape.Covers left := by
  have hc : ¬ Text.isGap c = true := by rw [h]; decide
  rcases shape with _ | ⟨text | ⟨kind, nonempty, reach⟩, shape⟩
  · rw [consShape, if_neg hc]
    exact covers_literal_cons_iff
  · rw [consShape, if_neg hc, covers_literal_cons_iff]
    simp only [covers_literal_cons_iff]
    constructor
    · rintro ⟨left, rfl, hleft⟩
      exact ⟨text ++ left, rfl, left, rfl, hleft⟩
    · rintro ⟨_, rfl, left, rfl, hleft⟩
      exact ⟨left, rfl, hleft⟩
  · rw [consShape, if_neg hc]
    exact covers_literal_cons_iff

/-- The shape of a fixed text has the texts that the text stands for. -/
theorem covers_literal_iff (text : List Char) :
    Shape.Covers (text.foldr consShape []) piece ↔ Loose text piece := by
  constructor
  · -- a gap stands for all the blanks and tabs after it, so the induction is on the length
    induction hn : text.length using Nat.strongRecOn generalizing text piece with
    | ind n ih =>
      subst hn
      cases text with
      | nil =>
        intro h
        rw [covers_nil_iff.mp h]
        exact .done
      | cons c text =>
        cases hc : Text.isGap c with
        | false =>
          intro h
          obtain ⟨left, rfl, hleft⟩ := (covers_consShape_iff hc).mp h
          exact .same hc (ih _ (Nat.lt_succ_self _) text rfl hleft)
        | true =>
          intro h
          rw [foldr_consShape_gap hc, covers_cons_iff] at h
          obtain ⟨blanks, left, rfl, hblanks, hleft⟩ := h
          have hlen := (List.dropWhile_sublist Text.isGap (l := text)).length_le
          exact .gap hc (fits_nonempty_iff.mp hblanks) (ih _ (Nat.lt_succ_of_le hlen) _ rfl hleft)
  · intro h
    induction h with
    | done => exact covers_nil_iff.mpr rfl
    | same hc _ ih => exact (covers_consShape_iff hc).mpr ⟨_, rfl, ih⟩
    | gap hc hblanks _ ih =>
      rw [foldr_consShape_gap hc, covers_cons_iff]
      exact ⟨_, _, rfl, fits_nonempty_iff.mpr hblanks, ih⟩

theorem Token.covers_iff (token : Token) : token.shape.Covers piece ↔ token.Stands piece := by
  cases token with
  | letters letter count =>
    rw [Token.shape, covers_single_iff, fits_nonempty_iff]
    simp [RunKind.accepts, Token.Stands, IsSolidText]
  | literal text => exact covers_literal_iff text

end Timestamp

theorem TimestampParser.covers_iff (parser : TimestampParser) :
    parser.shape.Covers piece ↔ parser.Stands piece := by
  cases parser with
  | absolute format =>
    rw [TimestampParser.shape, Timestamp.Format.shape, covers_flatMap_iff]
    simp only [Timestamp.Token.covers_iff]
    rfl
  | relative clock =>
    rw [TimestampParser.shape, covers_single_iff, fits_nonempty_iff]
    rfl

namespace Template

variable (timestamp : Option TimestampParser)

theorem fieldShape_covers_iff (f : Field) :
    (fieldShape (timestamp.map TimestampParser.shape) f).Covers piece ↔ f.Stands timestamp piece := by
  cases f with
  | message | thread | ndc | method | prop => exact covers_single_iff.trans fits_inLine_iff
  | logger | level | className | file | line => exact covers_single_iff.trans fits_solid_iff
  | relativeTime => exact covers_single_iff.trans fits_nonempty_iff
  | timestamp =>
    cases timestamp with
    | none => exact covers_single_iff.trans fits_inLine_iff
    | some parser => exact parser.covers_iff

/-- The shape of a token has the pieces that the token stands for. -/
theorem Token.covers_iff (token : Token) :
    (token.shape (timestamp.map TimestampParser.shape)).Covers piece ↔
      token.Stands timestamp piece := by
  cases token with
  | field f => exact fieldShape_covers_iff timestamp f
  | wildcard => exact covers_single_iff.trans fits_inLine_iff
  | gap => exact covers_single_iff.trans fits_nonempty_iff
  | literal text => exact covers_single_iff

instance (token : Token) : Decidable (token.Stands timestamp piece) :=
  decidable_of_iff _ (Token.covers_iff timestamp token)

instance (f : Field) : Decidable (f.Stands timestamp piece) :=
  inferInstanceAs (Decidable ((Token.field f).Stands timestamp piece))

/-! ## Captures -/

variable {template : Template} {timestampShape : Option Shape}

/-- The captures of the pieces of a line, each under the field of its token. -/
def captured (tokens : List Token) (pieces : List (List Char)) : Captures :=
  (tokens.zip pieces).filterMap fun (token, piece) =>
    token.field?.map fun f => (f, String.ofList piece)

theorem captured_cons (token : Token) (tokens : List Token) (piece : List Char)
    (pieces : List (List Char)) : captured (token :: tokens) (piece :: pieces) =
      (token.field?.map fun f => (f, String.ofList piece)).toList ++ captured tokens pieces := by
  cases h : token.field? <;> simp [captured, h]

/-- The parts of a cut along the shapes of tokens belong to the tokens, and the captures are made of
them. -/
theorem captureParts_cut {tokens : List Token} {parts : List (List Char)}
    (h : IsCut (tokens.flatMap (Token.shape timestampShape)) s parts) :
    ∃ cut : List (List (List Char)), parts = cut.flatten ∧
      List.Forall₂ (fun token own => IsCut (token.shape timestampShape) own.flatten own) tokens cut ∧
      captureParts timestampShape tokens parts = captured tokens (cut.map List.flatten) := by
  induction tokens generalizing s parts with
  | nil => exact ⟨[], (isCut_nil_iff.mp h).2, .nil, rfl⟩
  | cons token tokens ih =>
    rw [List.flatMap_cons] at h
    obtain ⟨piece, left, rfl, hpiece, hleft⟩ := isCut_append_iff.mp h
    obtain ⟨cut, hdrop, hcut, hcaptures⟩ := ih hleft
    refine ⟨parts.take (token.shape timestampShape).length :: cut, ?_, .cons ?_ hcut, ?_⟩
    · rw [List.flatten_cons, ← hdrop, List.take_append_drop]
    · rwa [hpiece.flatten]
    · rw [List.map_cons, captured_cons, captureParts, hcaptures]
      cases token.field? <;> rfl

/-- A cut along the shapes of tokens gives a piece for each token, and the captures are the pieces. -/
theorem captureParts_eq {tokens : List Token} {parts : List (List Char)}
    (h : IsCut (tokens.flatMap (Token.shape timestampShape)) s parts) :
    ∃ pieces, s = pieces.flatten ∧
      List.Forall₂ (fun token piece => (token.shape timestampShape).Covers piece) tokens pieces ∧
      captureParts timestampShape tokens parts = captured tokens pieces := by
  obtain ⟨cut, rfl, hcut, hcaptures⟩ := captureParts_cut h
  refine ⟨cut.map List.flatten, ?_, ?_, hcaptures⟩
  · rw [← h.flatten, List.flatten_flatten]
  · exact List.forall₂_map_right_iff.mpr (hcut.imp fun token own hown => ⟨own, hown⟩)

theorem captured_fields {P : Token → List Char → Prop} {tokens : List Token}
    {pieces : List (List Char)} (h : List.Forall₂ P tokens pieces) :
    (captured tokens pieces).map Prod.fst = tokens.filterMap Token.field? := by
  induction h with
  | nil => rfl
  | @cons token _ _ _ _ _ ih =>
    rw [captured_cons, List.map_append, ih]
    cases h : token.field? <;> simp [h]

theorem mem_captured_iff {tokens : List Token} {pieces : List (List Char)} {f : Field}
    {value : String} : (f, value) ∈ captured tokens pieces ↔
      (Token.field f, value.toList) ∈ tokens.zip pieces := by
  rw [captured, List.mem_filterMap]
  constructor
  · rintro ⟨⟨token, piece⟩, hmem, h⟩
    cases token with
    | field g =>
      obtain ⟨rfl, rfl⟩ := Prod.mk.inj (Option.some.inj h)
      rwa [String.toList_ofList]
    | wildcard | gap | literal => exact absurd h (by simp [Token.field?])
  · intro h
    exact ⟨_, h, by simp [Token.field?]⟩

/-- In captures that hold each field once, a field has the text that is listed with it. -/
theorem get?_eq_some_iff {captures : Captures} (h : (captures.map Prod.fst).Nodup) {f : Field}
    {value : String} : captures.get? f = some value ↔ (f, value) ∈ captures := by
  induction captures with
  | nil => simp [Captures.get?]
  | cons entry captures ih =>
    obtain ⟨g, text⟩ := entry
    rw [List.map_cons, List.nodup_cons] at h
    rw [Captures.get?, List.lookup_cons, List.mem_cons]
    by_cases hf : f = g
    · subst hf
      have hmem : (f, value) ∉ captures := fun hmem =>
        h.1 (List.mem_map.mpr ⟨(f, value), hmem, rfl⟩)
      simp [hmem, eq_comm]
    · have hne : (f == g) = false := beq_false_of_ne hf
      rw [hne]
      simp only [Prod.mk.injEq, hf, false_and, false_or]
      exact ih h.2

/-! ## Reading a template -/

theorem firstRepeated_eq_none {seen fields : List Field} (h : firstRepeated seen fields = none) :
    fields.Nodup ∧ ∀ f ∈ fields, f ∉ seen := by
  induction fields generalizing seen with
  | nil => exact ⟨.nil, fun f hf => absurd hf List.not_mem_nil⟩
  | cons f fields ih =>
    rw [firstRepeated] at h
    split at h
    · exact absurd h (by simp)
    · next hseen =>
      rw [List.contains_iff_mem] at hseen
      obtain ⟨hnodup, hnot⟩ := ih h
      refine ⟨List.nodup_cons.mpr ⟨fun hf => hnot f hf List.mem_cons_self, hnodup⟩, fun g hg => ?_⟩
      rcases List.mem_cons.mp hg with rfl | hg
      · exact hseen
      · exact fun hmem => hnot g hg (List.mem_cons_of_mem _ hmem)

theorem checkFields_ok {fields : List Field} (h : checkFields fields = .ok ()) :
    fields ≠ [] ∧ fields.Nodup ∧ Field.message ∉ fields.dropLast := by
  unfold checkFields at h
  split at h
  · exact absurd h (by simp)
  · next hempty =>
    split at h
    · exact absurd h (by simp)
    · next hnone =>
      split at h
      · exact absurd h (by simp)
      · next hlast =>
        refine ⟨fun h' => hempty (by rw [h']; rfl), (firstRepeated_eq_none hnone).1, ?_⟩
        rwa [List.contains_iff_mem] at hlast

/-- What is known of a template that has been read. -/
theorem compile_ok {text : String} (h : compile text timestampShape = .ok template) :
    tokenize text.toList = .ok template.tokens ∧ template.timestampShape = timestampShape ∧
      checkFields template.fields = .ok () := by
  unfold compile at h
  split at h
  · exact absurd h (by simp [throw, throwThe, MonadExceptOf.throw, bind, Except.bind])
  · cases htokens : tokenize text.toList with
    | error e => simp [htokens, bind, Except.bind] at h
    | ok tokens =>
      cases hcheck : checkFields (tokens.filterMap Token.field?) with
      | error e => simp [htokens, hcheck, bind, Except.bind] at h
      | ok _ =>
        simp only [htokens, hcheck, bind, Except.bind, pure, Except.pure, Except.ok.injEq] at h
        subst h
        exact ⟨rfl, rfl, hcheck⟩

/-- The pieces that tokens stand for are those along whose shapes a line is cut. -/
theorem isMadeOf_iff {timestamp : Option TimestampParser} {line : String}
    {pieces : List (List Char)}
    (h : template.timestampShape = timestamp.map TimestampParser.shape) :
    template.IsMadeOf timestamp line pieces ↔ line.toList = pieces.flatten ∧
      List.Forall₂ (fun token piece => (token.shape template.timestampShape).Covers piece)
        template.tokens pieces := by
  rw [h]
  simp only [Token.covers_iff]
  exact ⟨fun hmade => ⟨hmade.whole, hmade.stands⟩, fun hmade => ⟨hmade.1, hmade.2⟩⟩

/-- **A line has captures if and only if it is made of pieces that the tokens of the template stand
for, one piece for each token. Its captures are the pieces of such a cut, one under each field.** -/
theorem captures?_iff_pieces (timestamp : Option TimestampParser) {text : String}
    (h : compile text (timestamp.map TimestampParser.shape) = .ok template) (line : String) :
    ((template.captures? line).isSome = true ↔ ∃ pieces, template.IsMadeOf timestamp line pieces) ∧
      ∀ captures, template.captures? line = some captures →
        captures.map Prod.fst = template.fields ∧ template.fields.Nodup ∧
        ∃ pieces, template.IsMadeOf timestamp line pieces ∧
          ∀ f value, captures.get? f = some value ↔
            (Token.field f, value.toList) ∈ template.tokens.zip pieces := by
  obtain ⟨_, hshape, hcheck⟩ := compile_ok h
  constructor
  · rw [captures?, Option.isSome_map, Shape.isSome_cut?_iff, shape, covers_flatMap_iff]
    simp only [isMadeOf_iff hshape]
  · intro captures hcaptures
    obtain ⟨parts, hparts, rfl⟩ := Option.map_eq_some_iff.mp hcaptures
    have hcut := template.shape.isPreferred_cut? line.toList
    rw [hparts] at hcut
    obtain ⟨pieces, hline, hcovers, hcaptured⟩ := captureParts_eq hcut.1
    have hfields := captured_fields hcovers
    have hnodup := (checkFields_ok hcheck).2.1
    rw [hcaptured]
    refine ⟨hfields, hnodup, pieces, (isMadeOf_iff hshape).mpr ⟨hline, hcovers⟩, fun f value => ?_⟩
    rw [get?_eq_some_iff (by rw [hfields]; exact hnodup), mem_captured_iff]

/-- A line with a time of day, a level and a message. -/
theorem captures?_clock_level_message :
    ∃ parser template, TimestampParser.compile "HH:mm" = .ok parser ∧
      compile "TIMESTAMP LEVEL  MESSAGE" (some parser.shape) = .ok template ∧
      (template.captures? "10:20 \tINFO it is up").isSome = true := by
  let parser : TimestampParser := .absolute
    ⟨"HH:mm", [.letters 'H' 2, .literal [':'], .letters 'm' 2],
      [.read .hour, .expect [':'], .read .minute]⟩
  let template : Template := ⟨"TIMESTAMP LEVEL  MESSAGE",
    [.field .timestamp, .gap, .field .level, .gap, .field .message], some parser.shape⟩
  have h : compile "TIMESTAMP LEVEL  MESSAGE" (some parser.shape) = .ok template := rfl
  refine ⟨parser, template, rfl, h, (captures?_iff_pieces (some parser) h _).1.mpr
    ⟨["10:20".toList, " \t".toList, "INFO".toList, " ".toList, "it is up".toList], rfl, by decide⟩⟩

end Template

end LogIntake
