import LogIntake.Proofs.Template.Lexemes
import LogIntake.Proofs.Text.Halves

/-!
# Where the fields of a template stand

* `KeyOpen`: a place lies in the key of a property; `FieldBegins`: a field begins at a place.
* `Begins.keyOpen_iff`, `Begins.keyOpen_inside`: what a lexeme in front, or around, says of a place.
* `Part`: a token and the text for which it stands.
* **`Scans.isLayout`**: the texts of the tokens make up the template, and fields stand exactly where one
  begins.
* **`fails_iff`**: the first property that has no key is the one that is refused.
-/

namespace LogIntake.Template

/-- At the end of a text, in front of which `before` stands, the key of a property is open that began in
the text: behind an opening that no name touches there is no closing parenthesis. An opening inside a key
makes no difference, since both keys end at the same place. -/
def KeyOpen (before text : List Char) : Prop :=
  ∃ front key, text = front ++ (propertyOpening ++ key) ∧ EndsFree (before ++ front) ∧ ')' ∉ key

/-- A field begins between two texts, in front of which `before` stands: outside keys there is a keyword that
no name touches, or an opening with no name before it. -/
def FieldBegins (before text rest : List Char) : Prop :=
  ¬ KeyOpen before text ∧ EndsFree (before ++ text) ∧ FieldAhead rest

/-- A property that is refused begins between two texts. -/
def Refuses (before text rest : List Char) (e : TemplateError) : Prop :=
  ¬ KeyOpen before text ∧ EndsFree (before ++ text) ∧ ∃ after, rest = propertyOpening ++ after ∧ Fault after e

/-- The first property that is refused begins somewhere in a text. -/
def FirstRefused (before s : List Char) (e : TemplateError) : Prop :=
  ∃ text rest, s = text ++ rest ∧ Refuses before text rest e ∧
    ∀ text' rest', s = text' ++ rest' → text'.length < text.length → ∀ e', ¬ Refuses before text' rest' e'

variable {before text later front mid rest raw key s : List Char} {c : Char} {f : Field}
  {lexeme : Lexeme} {e : TemplateError} {read : List (Lexeme × List Char)}

/-! ## Places around a lexeme -/

theorem not_keyOpen_nil : ¬ KeyOpen before [] := by
  rintro ⟨front, key, h, -⟩
  rw [eq_comm, List.append_eq_nil_iff] at h
  exact absurd h.2 (List.cons_ne_nil _ _)

/-- A cut of a text and what follows it, before the text, inside it or behind it. -/
theorem cut_cases (h : text ++ later = front ++ rest) :
    (front = [] ∧ rest = text ++ later) ∨
      (∃ mid, front ≠ [] ∧ mid ≠ [] ∧ text = front ++ mid ∧ rest = mid ++ later) ∨
      ∃ more, front = text ++ more ∧ later = more ++ rest := by
  rcases List.append_eq_append_iff.mp h with ⟨more, hfront, hlater⟩ | ⟨mid, htext, hrest⟩
  · exact .inr (.inr ⟨more, hfront, hlater⟩)
  · by_cases hfront : front = []
    · subst hfront
      exact .inl ⟨rfl, h.symm⟩
    · by_cases hmid : mid = []
      · subst hmid
        exact .inr (.inr ⟨[], by simpa using htext.symm, by simpa using hrest.symm⟩)
      · exact .inr (.inl ⟨mid, hfront, hmid, htext, hrest⟩)

theorem not_endsFree_append (hfront : front ≠ []) (h : ∀ c ∈ front, isNameChar c = true) :
    ¬ EndsFree (before ++ front) := by
  intro hfree
  have hlast := List.getLast?_eq_getLast_of_ne_nil hfront
  have hc := h _ (List.getLast_mem hfront)
  rw [hfree _ (by rw [List.getLast?_append, hlast]; rfl)] at hc
  exact absurd hc Bool.false_ne_true

/-- Only a field is read where one begins, and anything else is read character by character. -/
theorem Begins.field_or_single (h : Begins before lexeme text later) :
    (∃ f, lexeme = .field f) ∨
      (∀ f, lexeme ≠ .field f) ∧ ∃ c, text = [c] ∧ ¬ (EndsFree before ∧ FieldAhead (c :: later)) := by
  cases h with
  | property | keyword => exact .inl ⟨_, rfl⟩
  | wildcard => exact .inr ⟨nofun, _, rfl, fun h => absurd h.2.isNameChar (by decide)⟩
  | blank hgap =>
    exact .inr ⟨nofun, _, rfl, fun h => absurd h.2.isNameChar (by simp [not_isNameChar_of_isGap hgap])⟩
  | char _ _ hahead => exact .inr ⟨nofun, _, rfl, hahead⟩

/-- A lexeme is a field exactly if a field begins there. -/
theorem Begins.fieldBegins_iff (h : Begins before lexeme text later) :
    FieldBegins before [] (text ++ later) ↔ ∃ f, lexeme = .field f := by
  rcases h.field_or_single with hfield | ⟨hne, c, rfl, hahead⟩
  · refine iff_of_true ?_ hfield
    refine ⟨not_keyOpen_nil, ?_⟩
    rw [List.append_nil]
    cases h with
    | property hfree => exact ⟨hfree, .inr ⟨_, (List.append_assoc ..).symm⟩⟩
    | keyword hfree hf hbehind => exact ⟨hfree, .inl ⟨_, hf, _, rfl, hbehind⟩⟩
    | wildcard | blank | char => exact absurd hfield nofun
  · refine iff_of_false (fun hbegins => hahead ⟨?_, hbegins.2.2⟩) fun ⟨f, hf⟩ => hne f hf
    simpa using hbegins.2.1

theorem prefix_of_concat_eq (h : s ++ [c] = front ++ mid) (hmid : mid ≠ []) : front <+: s := by
  rcases List.prefix_concat_iff.mp ⟨mid, h.symm⟩ with rfl | hprefix
  · exact absurd (List.self_eq_append_right.mp h) hmid
  · exact hprefix

/-- Inside a lexeme that no name touches a key is open. -/
theorem Begins.keyOpen_inside (h : Begins before lexeme text later) (htext : text = front ++ mid)
    (hfront : front ≠ []) (hmid : mid ≠ []) (hfree : EndsFree (before ++ front)) :
    KeyOpen before front := by
  cases h with
  | @property raw _ hbefore hclosed _ =>
    have hbefore : EndsFree (before ++ []) := by rwa [List.append_nil]
    obtain ⟨more, hmore⟩ := prefix_of_concat_eq ((List.append_assoc ..).trans htext) hmid
    rcases List.append_eq_append_iff.mp hmore with ⟨part, hopening, -⟩ | ⟨key, hkey, hraw⟩
    · by_cases hpart : part = []
      · subst hpart
        exact ⟨[], [], by simpa using hopening.symm, hbefore, List.not_mem_nil⟩
      · -- all characters of the opening but its last one belong to names
        have hname : front <+: "PROP".toList := prefix_of_concat_eq (c := '(') hopening hpart
        exact absurd hfree
          (not_endsFree_append hfront fun c hc => isNameChar_of_mem_prop c (hname.subset hc))
    · refine ⟨[], key, hkey, hbefore, fun hmem => hclosed ?_⟩
      rw [hraw]
      exact List.mem_append_left _ hmem
  | keyword _ hf _ =>
    refine absurd hfree (not_endsFree_append hfront fun c hc => isNameChar_of_mem_keyword hf ?_)
    rw [htext]
    exact List.mem_append_left _ hc
  | wildcard | blank | char =>
    have hlength := congrArg List.length htext
    have := List.length_pos_iff.mpr hfront
    have := List.length_pos_iff.mpr hmid
    simp only [List.length_append, List.length_singleton] at hlength
    omega

/-- A key whose opening begins in a lexeme is closed in it. -/
theorem Begins.closes (h : Begins before lexeme text later) (htext : text = front ++ mid)
    (hmid : mid ≠ []) (hfree : EndsFree (before ++ front)) {more : List Char}
    (hopening : propertyOpening ++ key = mid ++ more) (hmore : more <+: later) : ')' ∈ key := by
  rcases h.field_or_single with ⟨f, rfl⟩ | ⟨-, c, rfl, hahead⟩
  · cases h with
    | property =>
      have hlast : ')' ∈ mid := by
        have hmem := List.getLast_mem hmid
        have hget := congrArg List.getLast? ((List.append_assoc ..).trans htext)
        rw [List.getLast?_concat, List.getLast?_append, List.getLast?_eq_getLast_of_ne_nil hmid,
          Option.some_or] at hget
        rwa [← Option.some.inj hget] at hmem
      have hmem : ')' ∈ propertyOpening ++ key := by
        rw [hopening]
        exact List.mem_append_left _ hlast
      exact (List.mem_append.mp hmem).resolve_left (by decide)
    | keyword _ hf _ =>
      by_cases hfront : front = []
      · subst hfront
        obtain ⟨c, name, hname, hc⟩ := exists_keyword_cons hf
        rw [List.nil_append] at htext
        rw [← htext, hname] at hopening
        exact absurd (List.cons.inj hopening).1.symm hc
      · refine absurd hfree (not_endsFree_append hfront fun c hc => isNameChar_of_mem_keyword hf ?_)
        rw [htext]
        exact List.mem_append_left _ hc
  · obtain ⟨rfl, rfl⟩ : front = [] ∧ mid = [c] := by
      rcases List.singleton_eq_append_iff.mp htext with h | ⟨-, h⟩
      · exact h
      · exact absurd h hmid
    refine absurd ⟨?_, .inr ?_⟩ hahead
    · rwa [List.append_nil] at hfree
    · exact (List.prefix_append _ key).trans (hopening ▸ (List.prefix_append_right_inj [c]).mpr hmore)

/-- Whether a key is open behind a lexeme does not depend on what began before or in the lexeme. -/
theorem Begins.keyOpen_iff (h : Begins before lexeme text later) (hfront : front <+: later) :
    KeyOpen before (text ++ front) ↔ KeyOpen (before ++ text) front := by
  constructor
  · rintro ⟨first, key, hsplit, hfree, hclosed⟩
    rcases List.append_eq_append_iff.mp hsplit with ⟨more, rfl, hmore⟩ | ⟨mid, htext, hopening⟩
    · exact ⟨more, key, hmore, by rwa [List.append_assoc], hclosed⟩
    · by_cases hmid : mid = []
      · subst hmid
        rw [List.append_nil] at htext
        exact ⟨[], key, hopening.symm, by rwa [htext, List.append_nil], hclosed⟩
      · exact absurd (h.closes htext hmid hfree hopening hfront) hclosed
  · rintro ⟨first, key, rfl, hfree, hclosed⟩
    exact ⟨text ++ first, key, (List.append_assoc ..).symm, by rwa [← List.append_assoc], hclosed⟩

theorem Begins.fieldBegins_append (h : Begins before lexeme text (front ++ rest)) :
    FieldBegins before (text ++ front) rest ↔ FieldBegins (before ++ text) front rest := by
  rw [FieldBegins, FieldBegins, h.keyOpen_iff (List.prefix_append front rest), List.append_assoc]

/-- No field begins inside a lexeme. -/
theorem Begins.not_fieldBegins (h : Begins before lexeme text later) (htext : text = front ++ mid)
    (hfront : front ≠ []) (hmid : mid ≠ []) : ¬ FieldBegins before front rest :=
  fun hbegins => hbegins.1 (h.keyOpen_inside htext hfront hmid hbegins.2.1)

/-! ## The texts of the tokens -/

/-- A token and the text for which it stands. -/
structure Part where
  token : Token
  text : List Char

/-- What text a token can stand for. -/
inductive Token.StandsFor : Token → List Char → Prop where
  | keyword {f : Field} : f ∈ Field.keywords → StandsFor (.field f) f.name.toList
  | property {raw : List Char} :
      ')' ∉ raw → Text.trim raw ≠ [] →
        StandsFor (.field (.prop (String.ofList (Text.trim raw)))) (propertyOpening ++ (raw ++ [')']))
  | wildcard : StandsFor .wildcard ['*']
  | gap {text : List Char} : text ≠ [] → (∀ c ∈ text, Text.isGap c = true) → StandsFor .gap text
  | literal {text : List Char} :
      text ≠ [] → (∀ c ∈ text, c ≠ '*' ∧ Text.isGap c = false) → StandsFor (.literal text) text

/-- The token of a field stands behind the text `front`. -/
def FieldStands (parts : List Part) (front : List Char) : Prop :=
  ∃ first f text last, parts = first ++ ⟨.field f, text⟩ :: last ∧ first.flatMap Part.text = front

/-- Puts a lexeme in front of tokens with their texts. -/
def Lexeme.consPart : Lexeme → List Char → List Part → List Part
  | .field f, text, parts => ⟨.field f, text⟩ :: parts
  | .wildcard, text, parts => ⟨.wildcard, text⟩ :: parts
  | .blank, text, ⟨.gap, more⟩ :: parts => ⟨.gap, text ++ more⟩ :: parts
  | .blank, text, parts => ⟨.gap, text⟩ :: parts
  | .char c, text, ⟨.literal fixed, more⟩ :: parts => ⟨.literal (c :: fixed), text ++ more⟩ :: parts
  | .char c, text, parts => ⟨.literal [c], text⟩ :: parts

/-- The texts of tokens make up a text, in front of which `before` stands, and fields stand where one
begins. -/
structure IsLayout (before s : List Char) (parts : List Part) : Prop where
  text_eq : parts.flatMap Part.text = s
  stands : ∀ part ∈ parts, part.token.StandsFor part.text
  fields : ∀ front rest, s = front ++ rest → (FieldStands parts front ↔ FieldBegins before front rest)

variable {parts : List Part} {token : Token}

theorem not_fieldStands_nil : ¬ FieldStands [] front := by
  rintro ⟨first, f, text, last, h, -⟩
  simp at h

theorem fieldStands_cons_iff : FieldStands (⟨token, text⟩ :: parts) front ↔
    (front = [] ∧ ∃ f, token = .field f) ∨ ∃ more, front = text ++ more ∧ FieldStands parts more := by
  constructor
  · rintro ⟨_ | ⟨part, first⟩, f, text', last, hparts, rfl⟩
    · obtain ⟨hpart, -⟩ := List.cons.inj hparts
      exact .inl ⟨rfl, f, (Part.mk.inj hpart).1⟩
    · obtain ⟨rfl, rfl⟩ := List.cons.inj hparts
      exact .inr ⟨_, List.flatMap_cons, first, f, text', last, rfl, rfl⟩
  · rintro (⟨rfl, f, rfl⟩ | ⟨more, rfl, first, f, text', last, rfl, rfl⟩)
    · exact ⟨[], f, text, parts, rfl, rfl⟩
    · exact ⟨⟨token, text⟩ :: first, f, text', last, rfl, List.flatMap_cons⟩

theorem map_consPart (lexeme : Lexeme) (text : List Char) (parts : List Part) :
    (lexeme.consPart text parts).map Part.token = lexeme.cons (parts.map Part.token) := by
  cases lexeme with
  | field f | wildcard => rfl
  | blank | char c => rcases parts with _ | ⟨⟨_ | _ | _ | _, more⟩, parts⟩ <;> rfl

theorem flatMap_consPart (lexeme : Lexeme) (text : List Char) (parts : List Part) :
    (lexeme.consPart text parts).flatMap Part.text = text ++ parts.flatMap Part.text := by
  cases lexeme with
  | field f | wildcard => rfl
  | blank | char c =>
    rcases parts with _ | ⟨⟨_ | _ | _ | _, more⟩, parts⟩ <;> simp [Lexeme.consPart]

/-- A text that joins the one of a token without a field. -/
theorem fieldStands_joined {other : Token} {more : List Char} (htoken : ∀ f, token ≠ .field f)
    (hother : ∀ f, other ≠ .field f) : FieldStands (⟨token, text ++ more⟩ :: parts) front ↔
      ∃ back, front = text ++ back ∧ FieldStands (⟨other, more⟩ :: parts) back := by
  have hnone : ∀ {t : Token}, (∀ f, t ≠ .field f) → ¬ ∃ f, t = .field f := fun h ⟨f, hf⟩ => h f hf
  simp only [fieldStands_cons_iff, hnone htoken, hnone hother, and_false, false_or]
  constructor
  · rintro ⟨back, rfl, h⟩
    exact ⟨more ++ back, List.append_assoc .., back, rfl, h⟩
  · rintro ⟨_, rfl, back, rfl, h⟩
    exact ⟨back, (List.append_assoc ..).symm, h⟩

theorem fieldStands_consPart_iff : FieldStands (lexeme.consPart text parts) front ↔
    (front = [] ∧ ∃ f, lexeme = .field f) ∨ ∃ more, front = text ++ more ∧ FieldStands parts more := by
  cases lexeme with
  | field f | wildcard => rw [Lexeme.consPart, fieldStands_cons_iff]; simp
  | blank =>
    rcases parts with _ | ⟨⟨_ | _ | _ | _, more⟩, parts⟩ <;>
      simp only [Lexeme.consPart, reduceCtorEq, exists_false, and_false, false_or]
    case cons.gap => exact fieldStands_joined nofun nofun
    all_goals rw [fieldStands_cons_iff]; simp
  | char c =>
    rcases parts with _ | ⟨⟨_ | _ | _ | _, more⟩, parts⟩ <;>
      simp only [Lexeme.consPart, reduceCtorEq, exists_false, and_false, false_or]
    case cons.literal => exact fieldStands_joined nofun nofun
    all_goals rw [fieldStands_cons_iff]; simp

theorem Begins.stands_consPart (h : Begins before lexeme text later)
    (hparts : ∀ part ∈ parts, part.token.StandsFor part.text) :
    ∀ part ∈ lexeme.consPart text parts, part.token.StandsFor part.text := by
  -- a token that is not joined to the next one
  have hnew : ∀ {token : Token}, token.StandsFor text →
      ∀ part ∈ (⟨token, text⟩ :: parts : List Part), part.token.StandsFor part.text :=
    fun htoken => List.forall_mem_cons.mpr ⟨htoken, hparts⟩
  cases h with
  | property _ hclosed hkey => exact hnew (.property hclosed hkey)
  | keyword _ hf _ => exact hnew (.keyword hf)
  | wildcard => exact hnew .wildcard
  | blank hgap =>
    rcases parts with _ | ⟨⟨_ | _ | _ | _, more⟩, parts⟩
    case cons.gap =>
      obtain ⟨hmore, hlater⟩ := List.forall_mem_cons.mp hparts
      cases hmore with
      | gap _ hall =>
        refine List.forall_mem_cons.mpr ⟨.gap (List.cons_ne_nil _ _) ?_, hlater⟩
        exact List.forall_mem_cons.mpr ⟨hgap, hall⟩
    all_goals exact hnew (.gap (List.cons_ne_nil _ _) (by simpa using hgap))
  | char hstar hgap _ =>
    rcases parts with _ | ⟨⟨_ | _ | _ | fixed, more⟩, parts⟩
    case cons.literal =>
      obtain ⟨hmore, hlater⟩ := List.forall_mem_cons.mp hparts
      change (Token.literal fixed).StandsFor more at hmore
      cases hmore with
      | literal _ hall =>
        refine List.forall_mem_cons.mpr ⟨.literal (List.cons_ne_nil _ _) ?_, hlater⟩
        exact List.forall_mem_cons.mpr ⟨⟨hstar, hgap⟩, hall⟩
    all_goals exact hnew (.literal (List.cons_ne_nil _ _) (by simpa using ⟨hstar, hgap⟩))

theorem IsLayout.cons (h : Begins before lexeme text later)
    (hlayout : IsLayout (before ++ text) later parts) :
    IsLayout before (text ++ later) (lexeme.consPart text parts) where
  text_eq := by rw [flatMap_consPart, hlayout.text_eq]
  stands := h.stands_consPart hlayout.stands
  fields := fun front rest hsplit => by
    rw [fieldStands_consPart_iff]
    rcases cut_cases hsplit with ⟨rfl, rfl⟩ | ⟨mid, hfront, hmid, htext, rfl⟩ | ⟨more, rfl, rfl⟩
    · rw [h.fieldBegins_iff]
      simp [h.text_ne_nil]
    · refine iff_of_false ?_ (h.not_fieldBegins htext hfront hmid)
      rintro (⟨hnil, -⟩ | ⟨more, hmore, -⟩)
      · exact hfront hnil
      · rw [htext, List.append_assoc, List.self_eq_append_right, List.append_eq_nil_iff] at hmore
        exact hmid hmore.1
    · rw [h.fieldBegins_append, ← hlayout.fields more rest rfl]
      simp [h.text_ne_nil]

/-- **The texts of the tokens make up the template, and fields stand exactly where one begins.** -/
theorem Scans.isLayout (h : Scans before s read) :
    ∃ parts, parts.map Part.token = tokensOf read ∧ IsLayout before s parts := by
  induction h with
  | done =>
    refine ⟨[], rfl, rfl, fun part hpart => absurd hpart List.not_mem_nil, fun front rest hsplit => ?_⟩
    obtain ⟨rfl, rfl⟩ := List.append_eq_nil_iff.mp hsplit.symm
    refine iff_of_false not_fieldStands_nil fun hbegins => ?_
    rcases hbegins.2.2 with ⟨f, hf, rest, hrest, -⟩ | hopening
    · obtain ⟨c, name, hname, -⟩ := exists_keyword_cons hf
      rw [hname] at hrest
      exact absurd hrest nofun
    · exact absurd (List.prefix_nil.mp hopening) (List.cons_ne_nil _ _)
  | @step before text later lexeme read hbegins _ ih =>
    obtain ⟨parts, htokens, hlayout⟩ := ih
    refine ⟨lexeme.consPart text parts, ?_, .cons hbegins hlayout⟩
    rw [map_consPart, htokens]
    rfl

/-! ## The property that is refused -/

theorem Refuses.fieldBegins (h : Refuses before text rest e) : FieldBegins before text rest := by
  obtain ⟨hkey, hfree, after, rfl, -⟩ := h
  exact ⟨hkey, hfree, .inr (List.prefix_append _ after)⟩

theorem Begins.refuses_append (h : Begins before lexeme text (front ++ rest)) :
    Refuses before (text ++ front) rest e ↔ Refuses (before ++ text) front rest e := by
  rw [Refuses, Refuses, h.keyOpen_iff (List.prefix_append front rest), List.append_assoc]

/-- The key of a property ends at the first closing parenthesis. -/
theorem closed_inj {raw' later' : List Char} (h : ')' ∉ raw) (h' : ')' ∉ raw')
    (heq : raw ++ ')' :: later = raw' ++ ')' :: later') : raw = raw' ∧ later = later' := by
  have hsplit := congrArg (Text.splitFirst? ')') heq
  rw [Text.splitFirst?_append h, Text.splitFirst?_append h'] at hsplit
  exact Prod.mk.inj (Option.some.inj hsplit)

theorem Fault.not_closed (h : Fault (raw ++ ')' :: later) e) (hclosed : ')' ∉ raw) :
    Text.trim raw = [] := by
  cases h with
  | unterminated hopen => exact absurd (by simp) hopen
  | blankKey heq hother hblank =>
    rw [(closed_inj hclosed hother heq).1]
    exact (Text.trim_eq_nil_iff _).mpr hblank

theorem Fault.unique {e' : TemplateError} {after : List Char} (h : Fault after e) (h' : Fault after e') :
    e = e' :=
  Except.error.inj ((propertyAt_of_fault h).symm.trans (propertyAt_of_fault h'))

/-- A lexeme that is read is no property that is refused. -/
theorem Begins.not_refuses (h : Begins before lexeme text later) :
    ¬ Refuses before [] (text ++ later) e := by
  rintro ⟨-, hfree, after, hafter, hfault⟩
  rw [List.append_nil] at hfree
  rcases h.field_or_single with ⟨f, rfl⟩ | ⟨-, c, rfl, hahead⟩
  · cases h with
    | property _ hclosed hkey =>
      rw [List.append_assoc, List.append_assoc] at hafter
      rw [← List.append_cancel_left hafter] at hfault
      exact hkey (hfault.not_closed hclosed)
    | keyword _ hf hbehind =>
      exact KeywordAhead.not_opening ⟨hf, later, rfl, hbehind⟩ ⟨after, hafter.symm⟩
  · exact hahead ⟨hfree, .inr ⟨after, hafter.symm⟩⟩

/-- A text that is read to its end has no property that is refused. -/
theorem Scans.not_refuses (h : Scans before s read) (hsplit : s = front ++ rest) :
    ¬ Refuses before front rest e := by
  induction h generalizing front with
  | done =>
    obtain ⟨rfl, rfl⟩ := List.append_eq_nil_iff.mp hsplit.symm
    rintro ⟨-, -, after, hafter, -⟩
    exact absurd hafter nofun
  | step hbegins _ ih =>
    rcases cut_cases hsplit with ⟨rfl, rfl⟩ | ⟨mid, hfront, hmid, htext, rfl⟩ | ⟨more, rfl, rfl⟩
    · exact hbegins.not_refuses
    · exact fun h => hbegins.not_fieldBegins htext hfront hmid h.fieldBegins
    · rw [hbegins.refuses_append]
      exact ih rfl

/-- What is refused is the first property that has no key. -/
theorem Fails.firstRefused (h : Fails before s e) : FirstRefused before s e := by
  induction h with
  | here hfree hfault =>
    refine ⟨[], _, rfl, ⟨not_keyOpen_nil, by rwa [List.append_nil], _, rfl, hfault⟩, ?_⟩
    exact fun front rest _ hshorter => absurd hshorter (Nat.not_lt_zero _)
  | @later before text later lexeme e hbegins _ ih =>
    obtain ⟨front, rest, rfl, hrefuses, hfirst⟩ := ih
    refine ⟨text ++ front, rest, (List.append_assoc ..).symm, hbegins.refuses_append.mpr hrefuses, ?_⟩
    intro front' rest' hsplit hshorter e'
    rcases cut_cases hsplit with ⟨rfl, rfl⟩ | ⟨mid, hfront, hmid, htext, rfl⟩ | ⟨more, rfl, hmore⟩
    · exact hbegins.not_refuses
    · exact fun h => hbegins.not_fieldBegins htext hfront hmid h.fieldBegins
    · rw [hmore] at hbegins
      rw [hbegins.refuses_append]
      refine hfirst more rest' hmore ?_ e'
      rw [List.length_append, List.length_append] at hshorter
      exact Nat.lt_of_add_lt_add_left hshorter

theorem FirstRefused.unique {e' : TemplateError} (h : FirstRefused before s e)
    (h' : FirstRefused before s e') : e = e' := by
  obtain ⟨front, rest, rfl, hrefuses, hfirst⟩ := h
  obtain ⟨front', rest', hsplit, hrefuses', hfirst'⟩ := h'
  have hlength : front.length = front'.length :=
    Nat.le_antisymm (Nat.le_of_not_lt fun hlt => hfirst front' rest' hsplit hlt e' hrefuses')
      (Nat.le_of_not_lt fun hlt => hfirst' front rest rfl hlt e hrefuses)
  obtain ⟨rfl, rfl⟩ := List.append_inj hsplit hlength
  obtain ⟨-, -, after, rfl, hfault⟩ := hrefuses
  obtain ⟨-, -, after', hafter, hfault'⟩ := hrefuses'
  rw [← List.append_cancel_left hafter] at hfault'
  exact hfault.unique hfault'

/-- **The first property that has no key is the one that is refused.** -/
theorem fails_iff : Fails before s e ↔ FirstRefused before s e := by
  refine ⟨Fails.firstRefused, fun h => ?_⟩
  rcases scans_or_fails before s with ⟨read, hread⟩ | ⟨e', he⟩
  · obtain ⟨front, rest, hsplit, hrefuses, -⟩ := h
    exact absurd hrefuses (hread.not_refuses hsplit)
  · rwa [h.unique he.firstRefused]

end LogIntake.Template
