import LogIntake.Proofs.Shape.Forced
import LogIntake.Proofs.Template.Language
import LogIntake.Proofs.Template.Tokens

/-!
# Lines of columns

* `Divider`: what stands between fields, `Column`: a field with its value and what divides it from the
  next one.
* `Column.IsFit`: a value that ends where its separator begins.
* `forces_dividers`, **`forces_columns`**: a line of such columns has no other cut that goes before.
* `captureParts_columns`: its captures are the values.
-/

namespace LogIntake.Template

/-- What stands between two fields of a line: a gap, however wide, or a fixed text. -/
inductive Divider where
  | gap (blanks : List Char)
  | literal (text : List Char)
deriving DecidableEq, Repr

namespace Divider

/-- The token of a template that a divider stands for. -/
def token : Divider → Token
  | .gap _ => .gap
  | .literal text => .literal text

/-- The divider as it is written. -/
def text : Divider → List Char
  | .gap blanks => blanks
  | .literal text => text

/-- A gap is made of blanks and tabs. -/
def IsWritten : Divider → Prop
  | .gap blanks => IsGapText blanks
  | .literal _ => True

/-- The characters with which dividers like this one can begin. -/
def Opens : Divider → Char → Prop
  | .gap _, c => Text.isGap c = true
  | .literal text, c => text.head? = some c

instance : DecidablePred IsWritten
  | .gap blanks =>
    decidable_of_iff (blanks ≠ [] ∧ blanks.all Text.isGap = true) (by simp [IsWritten, IsGapText])
  | .literal _ => inferInstanceAs (Decidable True)

instance (d : Divider) : DecidablePred d.Opens := fun c =>
  match d with
  | .gap _ => inferInstanceAs (Decidable (Text.isGap c = true))
  | .literal text => inferInstanceAs (Decidable (text.head? = some c))

end Divider

/-- A field of a line, with its value and what stands between the value and the next field. -/
structure Column where
  field : Field
  value : String
  separator : List Divider
deriving DecidableEq, Repr

namespace Column

/-- The tokens of a template that a column stands for. -/
def tokens (c : Column) : List Token :=
  .field c.field :: c.separator.map Divider.token

/-- The column as it is written, part by part. -/
def parts (c : Column) : List (List Char) :=
  c.value.toList :: c.separator.map Divider.text

/-- A value that the field can hold and that does not reach into what stands around it: it is not
empty, does not begin with a blank or tab, and has no character with which its separator can begin. -/
structure IsFit (c : Column) : Prop where
  field : c.field ≠ .timestamp ∧ c.field ≠ .relativeTime ∧ c.field ≠ .message
  stands : c.field.Stands none c.value.toList
  nonempty : c.value ≠ ""
  start : ∀ ch ∈ c.value.toList.head?, Text.isGap ch = false
  separator : c.separator ≠ []
  written : ∀ d ∈ c.separator, d.IsWritten
  ends : ∀ d ∈ c.separator.head?, ∀ ch ∈ c.value.toList, ¬ d.Opens ch

instance : DecidablePred IsFit := fun c =>
  decidable_of_iff ((c.field ≠ .timestamp ∧ c.field ≠ .relativeTime ∧ c.field ≠ .message) ∧
      c.field.Stands none c.value.toList ∧ c.value ≠ "" ∧
      c.value.toList.head?.any Text.isGap = false ∧ c.separator ≠ [] ∧
      (∀ d ∈ c.separator, d.IsWritten) ∧
      ∀ d ∈ c.separator.head?, (c.value.toList.any fun ch => d.Opens ch) = false)
    ⟨fun ⟨h₁, h₂, h₃, h₄, h₅, h₆, h₇⟩ =>
        ⟨h₁, h₂, h₃, (Option.any_eq_false _ _).mp h₄, h₅, h₆, by simpa using h₇⟩,
      fun ⟨h₁, h₂, h₃, h₄, h₅, h₆, h₇⟩ =>
        ⟨h₁, h₂, h₃, (Option.any_eq_false _ _).mpr h₄, h₅, h₆, by simpa using h₇⟩⟩

end Column

/-- The message of a line after some dividers: it stays on the line, and does not begin with a blank or
tab if there is a gap before it. -/
structure IsMessageAfter (dividers : List Divider) (message : String) : Prop where
  inLine : '\n' ∉ message.toList
  start : ∀ blanks, dividers.getLast? = some (.gap blanks) →
    ∀ ch ∈ message.toList.head?, Text.isGap ch = false

/-! ## Cuts -/

variable {timestampShape : Option Shape} {dividers : List Divider} {columns : List Column}
  {tokens : List Token} {parts : List (List Char)} {message : String}

/-- The dividers in front of a forced cut. -/
theorem forces_dividers (hwritten : ∀ d ∈ dividers, d.IsWritten)
    (hproper : ∀ d ∈ dividers, d.token.IsProper)
    (hapart : (dividers.map Divider.token).IsChain Token.Apart)
    (hrest : Shape.Forces (tokens.flatMap (Token.shape timestampShape)) parts)
    (hnext : ∀ blanks, dividers.getLast? = some (.gap blanks) →
      ∀ ch ∈ parts.flatten.head?, Text.isGap ch = false) :
    Shape.Forces ((dividers.map Divider.token ++ tokens).flatMap (Token.shape timestampShape))
      (dividers.map Divider.text ++ parts) := by
  induction dividers with
  | nil => exact hrest
  | cons d dividers ih =>
    obtain ⟨hd, hwritten'⟩ := List.forall_mem_cons.mp hwritten
    obtain ⟨_, hproper'⟩ := List.forall_mem_cons.mp hproper
    rw [List.map_cons, List.isChain_cons] at hapart
    have hlater := ih hwritten' hproper' hapart.2 fun blanks hlast =>
      hnext blanks (by rw [List.getLast?_cons, hlast]; rfl)
    cases d with
    | literal text => exact .literal hlater
    | gap blanks =>
      refine .long (fits_nonempty_iff.mpr hd) (fun ch hch => ?_) hlater
      cases dividers with
      | nil => exact hnext blanks rfl ch hch
      | cons next dividers =>
        cases next with
        | gap _ => exact absurd (hapart.1 .gap rfl) id
        | literal text =>
          obtain ⟨hne, htext⟩ := hproper' _ List.mem_cons_self
          obtain ⟨c, text, rfl⟩ := List.exists_cons_of_ne_nil hne
          obtain rfl : c = ch := by simpa [Divider.text] using hch
          exact htext c List.mem_cons_self

/-- The shape of a divider is one piece, which begins as the divider does. -/
theorem Divider.shape_eq (timestampShape : Option Shape) (d : Divider) :
    ∃ p, d.token.shape timestampShape = [p] ∧ (d.token.IsProper → p.IsSolid) ∧
      ∀ c, p.Opens c → d.Opens c := by
  cases d with
  | gap blanks => exact ⟨_, rfl, fun _ => rfl, fun c hc => hc⟩
  | literal text => exact ⟨_, rfl, fun h => h.1, fun c hc => hc⟩

/-- The shape of a field between dividers is a short run. -/
theorem Column.IsFit.shape_eq {c : Column} (h : c.IsFit) (timestampShape : Option Shape) : ∃ kind,
    fieldShape timestampShape c.field = [.run kind false .shortest] ∧
      (Piece.run kind false .shortest).Fits c.value.toList := by
  have hstands := h.stands
  obtain ⟨h₁, h₂, h₃⟩ := h.field
  cases hf : c.field with
  | timestamp => exact absurd hf h₁
  | relativeTime => exact absurd hf h₂
  | message => exact absurd hf h₃
  | thread | ndc | method | prop =>
    rw [hf] at hstands
    exact ⟨.anyInLine, rfl, fits_inLine_iff.mpr hstands⟩
  | logger | level | className | file | line =>
    rw [hf] at hstands
    exact ⟨.solid, rfl, fits_solid_iff.mpr hstands⟩

theorem forces_message (h : '\n' ∉ message.toList) :
    Shape.Forces ([Token.field .message].flatMap (Token.shape timestampShape)) [message.toList] :=
  .long (fits_inLine_iff.mpr h) (fun c hc => absurd hc (by simp)) .done

theorem IsMessageAfter.of_append {front : List Divider}
    (h : IsMessageAfter (front ++ dividers) message) : IsMessageAfter dividers message := by
  refine ⟨h.inLine, fun blanks hlast => h.start blanks ?_⟩
  rw [List.getLast?_append, hlast]
  rfl

/-- **A line of columns that fit has no choice**: every value ends where its separator begins. -/
theorem forces_columns (timestampShape : Option Shape) (hwritten : ∀ d ∈ dividers, d.IsWritten)
    (hfit : ∀ c ∈ columns, c.IsFit)
    (hmessage : IsMessageAfter (dividers ++ columns.flatMap Column.separator) message)
    (hproper : ∀ token ∈ dividers.map Divider.token ++ columns.flatMap Column.tokens, token.IsProper)
    (hapart : (dividers.map Divider.token ++ columns.flatMap Column.tokens).IsChain Token.Apart) :
    Shape.Forces
      ((dividers.map Divider.token ++ (columns.flatMap Column.tokens ++ [Token.field .message])).flatMap
        (Token.shape timestampShape))
      (dividers.map Divider.text ++ (columns.flatMap Column.parts ++ [message.toList])) := by
  induction columns generalizing dividers with
  | nil =>
    rw [List.flatMap_nil, List.append_nil] at hmessage hproper hapart
    refine forces_dividers hwritten (fun d hd => hproper _ (List.mem_map_of_mem hd)) hapart
      (forces_message hmessage.inLine) fun blanks hlast ch hch => ?_
    exact hmessage.start blanks hlast ch (by simpa using hch)
  | cons c columns ih =>
    obtain ⟨hc, hfit'⟩ := List.forall_mem_cons.mp hfit
    obtain ⟨kind, hshape, hfits⟩ := hc.shape_eq timestampShape
    obtain ⟨d, separator, hseparator⟩ := List.exists_cons_of_ne_nil hc.separator
    obtain ⟨p, hp, hsolid, hopens⟩ := d.shape_eq timestampShape
    rw [List.flatMap_cons] at hmessage hproper hapart
    have htokens : c.tokens = [Token.field c.field] ++ c.separator.map Divider.token := rfl
    have hlater := ih hc.written hfit' hmessage.of_append
      (fun token htoken => hproper token (by
        rw [htokens, List.append_assoc]
        exact List.mem_append_right _ (List.mem_append_right _ htoken)))
      (by
        rw [htokens, List.append_assoc] at hapart
        exact (List.isChain_append.mp (List.isChain_append.mp hapart).2.1).2.1)
    have hfirst : ∃ shape, (c.separator.map Divider.token ++ (columns.flatMap Column.tokens ++
        [Token.field .message])).flatMap (Token.shape timestampShape) = p :: shape := by
      rw [hseparator, List.map_cons, List.cons_append, List.flatMap_cons, hp]
      exact ⟨_, rfl⟩
    obtain ⟨shape, hfirst⟩ := hfirst
    rw [hfirst] at hlater
    have hcolumn : ((c :: columns).flatMap Column.tokens ++ [Token.field .message]).flatMap
        (Token.shape timestampShape) = .run kind false .shortest :: p :: shape := by
      rw [List.flatMap_cons, htokens, List.append_assoc, List.append_assoc, List.singleton_append,
        List.flatMap_cons, hfirst, Token.shape, hshape]
      rfl
    have hparts : (c :: columns).flatMap Column.parts ++ [message.toList] =
        c.value.toList :: (c.separator.map Divider.text ++
          (columns.flatMap Column.parts ++ [message.toList])) := by
      rw [List.flatMap_cons, List.append_assoc]
      rfl
    refine forces_dividers hwritten
      (fun d hd => hproper _ (List.mem_append_left _ (List.mem_map_of_mem hd)))
      (List.isChain_append.mp hapart).1 ?_ fun blanks _ ch hch => ?_
    · rw [hcolumn, hparts]
      have hd : d.token ∈ c.tokens := by
        rw [htokens, hseparator]
        exact .tail _ (.head _)
      refine .short hfits (hsolid (hproper _ ?_)) (fun ch hch hopen => ?_) hlater
      · exact List.mem_append_right _ (List.mem_append_left _ hd)
      · exact hc.ends d (by rw [hseparator]; rfl) ch hch (hopens ch hopen)
    · refine hc.start ch ?_
      have hne : c.value.toList ≠ [] := fun h => hc.nonempty (String.toList_eq_nil_iff.mp h)
      obtain ⟨first, later, hvalue⟩ := List.exists_cons_of_ne_nil hne
      rw [hparts, List.flatten_cons, hvalue] at hch
      rwa [hvalue]

/-! ## Captures -/

theorem captureParts_dividers (timestampShape : Option Shape) (dividers : List Divider)
    (tokens : List Token) (parts : List (List Char)) :
    captureParts timestampShape (dividers.map Divider.token ++ tokens)
      (dividers.map Divider.text ++ parts) = captureParts timestampShape tokens parts := by
  induction dividers with
  | nil => rfl
  | cons d dividers ih => cases d <;> exact ih

/-- The captures of columns are their values. -/
theorem captureParts_columns (timestampShape : Option Shape) (hfit : ∀ c ∈ columns, c.IsFit) :
    captureParts timestampShape (columns.flatMap Column.tokens ++ [Token.field .message])
      (columns.flatMap Column.parts ++ [message.toList]) =
      columns.map (fun c => (c.field, c.value)) ++ [(.message, message)] := by
  induction columns with
  | nil =>
    change [(Field.message, String.ofList (message.toList ++ []))] = [(Field.message, message)]
    rw [List.append_nil, String.ofList_toList]
  | cons c columns ih =>
    obtain ⟨hc, hfit'⟩ := List.forall_mem_cons.mp hfit
    obtain ⟨kind, hshape, _⟩ := hc.shape_eq timestampShape
    have hlength : ((Token.field c.field).shape timestampShape).length = 1 := by
      rw [Token.shape, hshape]
      rfl
    rw [List.flatMap_cons, List.flatMap_cons, List.append_assoc, List.append_assoc]
    change captureParts timestampShape (.field c.field :: (c.separator.map Divider.token ++ _))
      (c.value.toList :: (c.separator.map Divider.text ++ _)) = _
    rw [captureParts, hlength]
    change (c.field, String.ofList (c.value.toList ++ [])) ::
      captureParts timestampShape (c.separator.map Divider.token ++ _) (c.separator.map Divider.text ++ _) = _
    rw [captureParts_dividers, ih hfit', List.append_nil, String.ofList_toList]
    rfl

end LogIntake.Template
