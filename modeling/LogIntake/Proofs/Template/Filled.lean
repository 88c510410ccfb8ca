import LogIntake.Proofs.Shape.Forced
import LogIntake.Proofs.Template.Language
import LogIntake.Proofs.Template.Tokens

/-!
# Filled templates

* `Template.fill`: the line that a template makes of values for its fields.
* `Token.Separates`, `Token.Keeps`: what two neighbours in a template, and the values at them, must
  observe so that the values can be told apart in the line.
* `isPreferred_fill`: the line is cut where it was put together.
* **`captures?_fill`**: its captures are the values.
-/

namespace LogIntake.Template

/-! ## Lines from values -/

section Filling

variable (value : Field → String)

/-- What is written for a token: the value of a field, and one blank for a gap. -/
def Token.fill : Token → List Char
  | .field f => (value f).toList
  | .wildcard => []
  | .gap => [' ']
  | .literal text => text

/-- The line that a template makes of values for its fields. -/
def fill (template : Template) : String :=
  String.ofList (template.tokens.flatMap (Token.fill value))

/-- Two neighbours in a template, if its fields are separated: there is something between two fields,
and a fixed text after a relative time does not begin with a digit. -/
def Token.Separates : Token → Token → Prop
  | .field _, .field _ => False
  | .field .relativeTime, .literal text => ∀ c ∈ text.head?, Text.isDecimalDigit c = false
  | _, _ => True

/-- The fields of a template are separated by gaps and fixed texts, so that they can be told apart. -/
structure IsSeparated (template : Template) : Prop where
  noWildcard : .wildcard ∉ template.tokens
  separates : template.tokens.IsChain Token.Separates

/-- The characters with which a separator begins in a line. -/
def Token.Opens : Token → Char → Prop
  | .gap, c => Text.isGap c = true
  | .literal text, c => text.head? = some c
  | .field _, _ | .wildcard, _ => False

/-- Values that keep to their places between two neighbours: the value of a field other than the
message has no character with which the separator after it begins, and no value after a gap begins
with a blank or tab. -/
def Token.Keeps : Token → Token → Prop
  | .field f, next => f ≠ .message → ∀ c ∈ (value f).toList, ¬ next.Opens c
  | .gap, .field f => ∀ c ∈ (value f).toList.head?, Text.isGap c = false
  | _, _ => True

/-- Values for the fields of a template: each one is a text that its field stands for, only the message
may be empty, and all keep to their places. -/
structure Suits (template : Template) : Prop where
  stands : ∀ f ∈ template.fields, f.Stands none (value f).toList
  nonempty : ∀ f ∈ template.fields, f ≠ .message → value f ≠ ""
  keeps : template.tokens.IsChain (Token.Keeps value)

end Filling

/-! ## The pieces of a line -/

variable {value : Field → String} {template : Template} {token : Token} {tokens : List Token}

/-- Without a shape for timestamps every token has one piece. -/
theorem Token.exists_shape (token : Token) : ∃ p, token.shape none = [p] := by
  rcases token with f | _ | _ | _
  · cases f <;> exact ⟨_, rfl⟩
  all_goals exact ⟨_, rfl⟩

theorem Token.fits_iff {p : Piece} (h : token.shape none = [p]) {piece : List Char} :
    p.Fits piece ↔ token.Stands none piece := by
  rw [← token.covers_iff none, Option.map_none, h, covers_single_iff]

/-- The piece of a field other than a message or a relative time is a short run. -/
theorem exists_kind {f : Field} (hmessage : f ≠ .message) (hrelative : f ≠ .relativeTime) :
    ∃ kind, (Token.field f).shape none = [.run kind false .shortest] := by
  cases f with
  | message => exact absurd rfl hmessage
  | relativeTime => exact absurd rfl hrelative
  | timestamp | thread | ndc | method | prop => exact ⟨.anyInLine, rfl⟩
  | logger | level | className | file | line => exact ⟨.solid, rfl⟩

/-- A separator begins as its piece does. -/
theorem Token.exists_solid (hfield : token.field? = none) (hwild : token ≠ .wildcard)
    (hproper : token.IsProper) :
    ∃ p, token.shape none = [p] ∧ p.IsSolid ∧ ∀ c, p.Opens c → token.Opens c := by
  cases token with
  | field f => exact absurd hfield (by simp [Token.field?])
  | wildcard => exact absurd rfl hwild
  | gap => exact ⟨_, rfl, rfl, fun c hc => hc⟩
  | literal text => exact ⟨_, rfl, hproper.1, fun c hc => hc⟩

/-- Tokens for which no more is written than their shapes need: separators, and an empty message. -/
def Token.IsLeast (value : Field → String) (token : Token) : Prop :=
  ∀ f, token = .field f → f = .message ∧ value f = ""

theorem Token.IsLeast.length_fill (h : token.IsLeast value) :
    (token.fill value).length ≤ Shape.leastLength (token.shape none) := by
  cases token with
  | field f =>
    obtain ⟨-, hempty⟩ := h f rfl
    rw [Token.fill, hempty]
    exact Nat.zero_le _
  | wildcard => exact Nat.zero_le _
  | gap | literal => exact Nat.le_refl _

theorem length_fill_le (h : ∀ token ∈ tokens, token.IsLeast value) :
    (tokens.flatMap (Token.fill value)).length ≤
      Shape.leastLength (tokens.flatMap (Token.shape none)) := by
  induction tokens with
  | nil => exact Nat.le_refl _
  | cons token tokens ih =>
    obtain ⟨htoken, hlater⟩ := List.forall_mem_cons.mp h
    have hle := Nat.add_le_add htoken.length_fill (ih hlater)
    rwa [List.flatMap_cons, List.flatMap_cons, List.length_append, Shape.leastLength_append]

/-! ## The cut of a line -/

/-- What is known of the tokens of a template from one of them on, and of the values at them. -/
structure AreFilled (value : Field → String) (tokens : List Token) : Prop where
  proper : ∀ token ∈ tokens, token.IsProper
  apart : tokens.IsChain Token.Apart
  noWildcard : .wildcard ∉ tokens
  separates : tokens.IsChain Token.Separates
  messageLast : .message ∉ (tokens.filterMap Token.field?).dropLast
  stands : ∀ f, .field f ∈ tokens → f.Stands none (value f).toList
  nonempty : ∀ f, .field f ∈ tokens → f ≠ .message → value f ≠ ""
  keeps : tokens.IsChain (Token.Keeps value)

namespace AreFilled

theorem tail (h : AreFilled value (token :: tokens)) : AreFilled value tokens where
  proper := (List.forall_mem_cons.mp h.proper).2
  apart := h.apart.tail
  noWildcard := fun hmem => h.noWildcard (.tail _ hmem)
  separates := h.separates.tail
  messageLast := by
    have hlast := h.messageLast
    cases hfield : token.field? with
    | none => rwa [List.filterMap_cons_none hfield] at hlast
    | some f =>
      rw [List.filterMap_cons_some hfield] at hlast
      refine fun hmem => hlast ?_
      cases hfields : tokens.filterMap Token.field? with
      | nil => simp [hfields] at hmem
      | cons g fields =>
        rw [hfields] at hmem
        exact .tail _ hmem
  stands := fun f hf => h.stands f (.tail _ hf)
  nonempty := fun f hf => h.nonempty f (.tail _ hf)
  keeps := h.keeps.tail

/-- No field comes after the message. -/
theorem isLeast_of_message (h : AreFilled value (.field .message :: tokens)) :
    ∀ token ∈ tokens, token.IsLeast value := by
  rintro token htoken f rfl
  have hlast := h.messageLast
  rw [List.filterMap_cons_some (show (Token.field .message).field? = some .message from rfl)] at hlast
  have hmem : f ∈ tokens.filterMap Token.field? := List.mem_filterMap.mpr ⟨_, htoken, rfl⟩
  obtain ⟨g, fields, hfields⟩ := List.exists_cons_of_ne_nil (List.ne_nil_of_mem hmem)
  rw [hfields] at hlast
  exact absurd (.head _) hlast

/-- A gap ends where it was written: what comes after it does not begin with a blank or tab, or is as
short as can be. -/
theorem gap_ends (h : AreFilled value (.gap :: tokens)) :
    (∀ c ∈ (tokens.flatMap (Token.fill value)).head?, Text.isGap c = false) ∨
      ∀ token ∈ tokens, token.IsLeast value := by
  cases tokens with
  | nil => exact .inl fun c hc => absurd hc (by simp)
  | cons next tokens =>
    rw [List.flatMap_cons]
    cases next with
    | wildcard => exact absurd (.tail _ (.head _)) h.noWildcard
    | gap => exact absurd (List.isChain_cons_cons.mp h.apart).1 id
    | literal text =>
      obtain ⟨hne, htext⟩ := h.proper (.literal text) (.tail _ (.head _))
      obtain ⟨c, text, rfl⟩ := List.exists_cons_of_ne_nil hne
      refine .inl fun d hd => htext d ?_
      obtain rfl : c = d := Option.some.inj hd
      exact .head _
    | field f =>
      have hkeeps := (List.isChain_cons_cons.mp h.keeps).1
      cases hvalue : (value f).toList with
      | cons c later =>
        refine .inl fun d hd => hkeeps d ?_
        obtain rfl : c = d := by simpa [Token.fill, hvalue] using hd
        rw [hvalue]
        rfl
      | nil =>
        have hempty : value f = "" := String.toList_eq_nil_iff.mp hvalue
        have hmessage : f = .message := by
          by_contra hne
          exact h.nonempty f (.tail _ (.head _)) hne hempty
        subst hmessage
        refine .inr (List.forall_mem_cons.mpr ⟨fun g hg => ?_, h.tail.isLeast_of_message⟩)
        obtain rfl := Token.field.inj hg
        exact ⟨rfl, hempty⟩

/-- A relative time ends where it was written. -/
theorem relativeTime_ends (h : AreFilled value (.field .relativeTime :: tokens)) :
    ∀ c ∈ (tokens.flatMap (Token.fill value)).head?, Text.isDecimalDigit c = false := by
  cases tokens with
  | nil => exact fun c hc => absurd hc (by simp)
  | cons next tokens =>
    have hseparates := (List.isChain_cons_cons.mp h.separates).1
    rw [List.flatMap_cons]
    cases next with
    | field f => exact absurd hseparates id
    | wildcard => exact absurd (.tail _ (.head _)) h.noWildcard
    | gap =>
      intro c hc
      obtain rfl : ' ' = c := Option.some.inj hc
      decide
    | literal text =>
      obtain ⟨hne, -⟩ := h.proper (.literal text) (.tail _ (.head _))
      obtain ⟨c, text, rfl⟩ := List.exists_cons_of_ne_nil hne
      intro d hd
      exact hseparates d hd

/-- **Every token takes what was written for it**, if the rest of the line can be cut. -/
theorem isChoice (h : AreFilled value (token :: tokens)) {p : Piece} (hp : token.shape none = [p])
    (hcovers : Shape.Covers (tokens.flatMap (Token.shape none)) (tokens.flatMap (Token.fill value))) :
    p.IsChoice (Shape.Covers (tokens.flatMap (Token.shape none)))
      (token.fill value ++ tokens.flatMap (Token.fill value)) (some (token.fill value).length) := by
  cases token with
  | wildcard => exact absurd (.head _) h.noWildcard
  | literal text =>
    obtain rfl : .literal text = p := (List.cons.inj hp).1
    exact ⟨takes_length rfl hcovers, fun n hn => .inl (takes_literal.mp hn).1⟩
  | gap =>
    have hfits : p.Fits [' '] := (Token.fits_iff hp).mpr
      ⟨List.cons_ne_nil _ _, List.forall_mem_singleton.mpr (by decide)⟩
    obtain rfl : .run .gap true .longest = p := (List.cons.inj hp).1
    rcases h.gap_ends with hstops | hleast
    · exact isChoice_long_of_stops hfits hcovers hstops
    · exact isChoice_long_of_least hfits hcovers (length_fill_le hleast)
  | field f =>
    have hfits : p.Fits (value f).toList := (Token.fits_iff hp).mpr (h.stands f (.head _))
    by_cases hmessage : f = .message
    · subst hmessage
      obtain rfl : .run .anyInLine false .longest = p := (List.cons.inj hp).1
      exact isChoice_long_of_least hfits hcovers (length_fill_le h.isLeast_of_message)
    by_cases hrelative : f = .relativeTime
    · subst hrelative
      obtain rfl : .run .digit true .longest = p := (List.cons.inj hp).1
      exact isChoice_long_of_stops hfits hcovers h.relativeTime_ends
    obtain ⟨kind, hkind⟩ := exists_kind hmessage hrelative
    obtain rfl : .run kind false .shortest = p := (List.cons.inj (hkind.symm.trans hp)).1
    cases tokens with
    | nil => exact isChoice_short_last hfits
    | cons next tokens =>
      have hkeeps := (List.isChain_cons_cons.mp h.keeps).1 hmessage
      have hfield : next.field? = none := by
        cases next with
        | field g =>
          have hseparates := (List.isChain_cons_cons.mp h.separates).1
          cases f <;> exact absurd hseparates id
        | wildcard | gap | literal => rfl
      have hwild : next ≠ .wildcard := fun heq => h.noWildcard (heq ▸ .tail _ (.head _))
      obtain ⟨q, hq, hsolid, hopens⟩ :=
        next.exists_solid hfield hwild (h.proper next (.tail _ (.head _)))
      rw [List.flatMap_cons, hq] at hcovers ⊢
      exact isChoice_short_of_avoids hfits hcovers hsolid fun c hc hopen => hkeeps c hc (hopens c hopen)

/-- **The line is cut where it was put together.** -/
theorem isPreferred_fill (h : AreFilled value tokens) :
    Shape.IsPreferred (tokens.flatMap (Token.shape none)) (tokens.flatMap (Token.fill value))
      (some (tokens.map (Token.fill value))) := by
  rw [List.flatMap_def (f := Token.fill value)]
  induction tokens with
  | nil => exact ⟨.done, fun others h => .inl (isCut_nil_iff.mp h).2⟩
  | cons token tokens ih =>
    obtain ⟨p, hp⟩ := token.exists_shape
    have hlater := ih h.tail
    have hchoice := h.isChoice hp ⟨_, by rw [List.flatMap_def]; exact hlater.1⟩
    rw [List.flatMap_cons, hp]
    rw [List.flatMap_def] at hchoice
    exact isPreferred_part hchoice hlater

end AreFilled

/-! ## The captures of a line -/

/-- The captures of the parts of a line, one for each token. -/
theorem captureParts_fill (tokens : List Token) :
    captureParts none tokens (tokens.map (Token.fill value)) =
      (tokens.filterMap Token.field?).map fun f => (f, value f) := by
  induction tokens with
  | nil => rfl
  | cons token tokens ih =>
    obtain ⟨p, hp⟩ := token.exists_shape
    cases token with
    | field f => simp [captureParts, hp, Token.field?, Token.fill, ih]
    | wildcard | gap | literal =>
      rw [captureParts, hp]
      exact ih

/-- **The captures of a line that a template makes of values are these values**, if the fields of the
template are separated and the values keep to their places. -/
theorem captures?_fill {text : String} (hcompile : compile text none = .ok template)
    (hseparated : template.IsSeparated) (hvalues : template.Suits value) :
    template.captures? (template.fill value) = some (template.fields.map fun f => (f, value f)) := by
  obtain ⟨htokens, hshape, hcheck⟩ := compile_ok hcompile
  obtain ⟨hproper, hapart⟩ := tokenize_spec htokens
  have hmem : ∀ f, .field f ∈ template.tokens → f ∈ template.fields := fun f hf =>
    List.mem_filterMap.mpr ⟨_, hf, rfl⟩
  have hfilled : AreFilled value template.tokens :=
    { proper := hproper
      apart := hapart
      noWildcard := hseparated.noWildcard
      separates := hseparated.separates
      messageLast := (checkFields_ok hcheck).2.2
      stands := fun f hf => hvalues.stands f (hmem f hf)
      nonempty := fun f hf => hvalues.nonempty f (hmem f hf)
      keeps := hvalues.keeps }
  have hcut : template.shape.cut? (template.fill value).toList =
      some (template.tokens.map (Token.fill value)) := by
    rw [fill, String.toList_ofList, shape, hshape]
    exact hfilled.isPreferred_fill.cut?_eq
  rw [captures?, hcut, hshape, Option.map_some, captureParts_fill]
  rfl

/-- A template whose message is followed by a gap and a fixed text. -/
def closedTemplate : Template where
  text := "[THREAD] RELATIVETIME:PROP(user) - MESSAGE ;"
  tokens := [.literal ['['], .field .thread, .literal [']'], .gap, .field .relativeTime, .literal [':'],
    .field (.prop "user"), .gap, .literal ['-'], .gap, .field .message, .gap, .literal [';']]
  timestampShape := none

/-- A thread with a blank, a user with the separator of another field, and no message. -/
def closedValues : Field → String
  | .thread => "main 1"
  | .relativeTime => "12"
  | .prop _ => "a:b"
  | _ => ""

/-- The two blanks around an empty message are told apart. -/
theorem captures?_fill_emptyMessage :
    compile "[THREAD] RELATIVETIME:PROP(user) - MESSAGE ;" none = .ok closedTemplate ∧
      closedTemplate.IsSeparated ∧ closedTemplate.Suits closedValues ∧
      closedTemplate.captures? "[main 1] 12:a:b -  ;" =
        some [(.thread, "main 1"), (.relativeTime, "12"), (.prop "user", "a:b"), (.message, "")] := by
  have hcompile : compile "[THREAD] RELATIVETIME:PROP(user) - MESSAGE ;" none = .ok closedTemplate := rfl
  have hseparated : closedTemplate.IsSeparated := by
    have hcolon : Text.isDecimalDigit ':' = false := by decide
    refine ⟨by decide, ?_⟩
    simp [closedTemplate, Token.Separates, hcolon]
  have hvalues : closedTemplate.Suits closedValues := by
    refine ⟨by decide, by decide, ?_⟩
    simp [closedTemplate, closedValues, Token.Keeps, Token.Opens, Text.isGap]
  have hline : closedTemplate.fill closedValues = "[main 1] 12:a:b -  ;" := by decide +kernel
  have hcaptures := captures?_fill hcompile hseparated hvalues
  rw [hline] at hcaptures
  exact ⟨hcompile, hseparated, hvalues, hcaptures⟩

end LogIntake.Template
