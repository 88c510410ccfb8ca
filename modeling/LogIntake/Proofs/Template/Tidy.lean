import LogIntake.Proofs.Template.Places
import LogIntake.Proofs.Text.Trim

/-!
# A template, written back

* `oneBlank`: a text in which every run of blanks and tabs is one blank.
* `IsTidied`: a template that has been tidied, its keys trimmed and the rest with single blanks;
  `IsTidied.unique`: there is one way to do so.
* `Scans.isTidied`: writing the tokens of a template tidies it.
* `Scans.of_name_prefix`: what continues a name is the same in a template and in its written form.
* `Scans.rendered`: the written form is read as the template was.
* **`tokenize_faithful`**: what the tokens of a template say of it, and when it has none.
-/

namespace LogIntake.Template

/-- Puts a character in front of a text that has been tidied, where `rest` is what followed it before. Of
a run of blanks and tabs the last one is written. -/
def tidyCons (c : Char) (rest tidied : List Char) : List Char :=
  if Text.isGap c then if rest.head?.any Text.isGap then tidied else ' ' :: tidied else c :: tidied

/-- A text with one blank for every run of blanks and tabs. -/
def oneBlank : List Char → List Char
  | [] => []
  | c :: rest => tidyCons c rest (oneBlank rest)

example : oneBlank "a \t b \t".toList = "a b ".toList := by decide

/-- A text, in front of which `before` stands, has been tidied: keys of properties are trimmed, and outside
of them every run of blanks and tabs is one blank. -/
inductive IsTidied : List Char → List Char → List Char → Prop where
  | plain {before s : List Char} :
      (∀ front rest, s = front ++ (propertyOpening ++ rest) → ¬ EndsFree (before ++ front)) →
        IsTidied before s (oneBlank s)
  | property {before front raw later tidied : List Char} :
      (∀ front' rest,
        front ++ (propertyOpening ++ (raw ++ ')' :: later)) = front' ++ (propertyOpening ++ rest) →
        front'.length < front.length → ¬ EndsFree (before ++ front')) →
        EndsFree (before ++ front) → ')' ∉ raw →
        IsTidied (before ++ front ++ propertyOpening ++ raw ++ [')']) later tidied →
        IsTidied before (front ++ (propertyOpening ++ (raw ++ ')' :: later)))
          (oneBlank front ++ (propertyOpening ++ (Text.trim raw ++ ')' :: tidied)))

variable {before text later front rest raw s tidied u v : List Char} {c : Char} {f : Field}
  {lexeme : Lexeme} {read : List (Lexeme × List Char)} {tokens : List Token}

/-! ## Tidying -/

/-- **There is one way to tidy a text.** -/
theorem IsTidied.unique {tidied' : List Char} (h : IsTidied before s tidied)
    (h' : IsTidied before s tidied') : tidied = tidied' := by
  induction h generalizing tidied' with
  | plain hnone =>
    cases h' with
    | plain => rfl
    | property _ hfree _ _ => exact absurd hfree (hnone _ _ rfl)
  | @property before front raw later tidied hfirst hfree hclosed _ ih =>
    generalize hs : front ++ (propertyOpening ++ (raw ++ ')' :: later)) = s at h'
    cases h' with
    | plain hnone => exact absurd hfree (hnone _ _ hs.symm)
    | @property _ front' raw' later' tidied' hfirst' hfree' hclosed' htidied =>
      -- both properties are the first one
      have hlength : front.length = front'.length :=
        Nat.le_antisymm (Nat.le_of_not_lt fun hlt => hfirst _ _ hs hlt hfree')
          (Nat.le_of_not_lt fun hlt => hfirst' _ _ hs.symm hlt hfree)
      obtain ⟨rfl, hbehind⟩ := List.append_inj hs hlength
      obtain ⟨rfl, rfl⟩ := closed_inj hclosed hclosed' (List.append_cancel_left hbehind)
      rw [ih htidied]

/-- A character at which no property begins. -/
theorem IsTidied.cons (h : IsTidied (before ++ [c]) rest tidied)
    (hopening : ¬ (EndsFree before ∧ propertyOpening <+: c :: rest)) :
    IsTidied before (c :: rest) (tidyCons c rest tidied) := by
  have hhere : ∀ {more}, c :: rest = [] ++ (propertyOpening ++ more) → ¬ EndsFree (before ++ []) :=
    fun hmore hfree => hopening ⟨by simpa using hfree, _, hmore.symm⟩
  cases h with
  | plain hnone =>
    refine .plain fun front more hsplit => ?_
    cases front with
    | nil => exact hhere hsplit
    | cons d front =>
      obtain ⟨rfl, hrest⟩ := List.cons.inj hsplit
      simpa using hnone front more hrest
  | @property _ front raw later tidied hfirst hfree hclosed htidied =>
    have hfront : tidyCons c (front ++ (propertyOpening ++ (raw ++ ')' :: later)))
        (oneBlank front ++ (propertyOpening ++ (Text.trim raw ++ ')' :: tidied))) =
        oneBlank (c :: front) ++ (propertyOpening ++ (Text.trim raw ++ ')' :: tidied)) := by
      have hhead : (front ++ (propertyOpening ++ (raw ++ ')' :: later))).head?.any Text.isGap =
          front.head?.any Text.isGap := by
        cases front <;> rfl
      rw [oneBlank, tidyCons, tidyCons, hhead]
      split_ifs <;> rfl
    rw [hfront, ← List.cons_append]
    refine .property (fun front' more hsplit hshorter => ?_) (by simpa using hfree) hclosed
      (by simpa using htidied)
    cases front' with
    | nil => exact hhere hsplit
    | cons d front' =>
      obtain ⟨rfl, hrest⟩ := List.cons.inj hsplit
      simpa using hfirst front' more hrest (Nat.lt_of_succ_lt_succ hshorter)

theorem tidyCons_of_isNameChar (h : isNameChar c = true) : tidyCons c rest tidied = c :: tidied := by
  rw [tidyCons, if_neg fun hgap => by simp [not_isNameChar_of_isGap hgap] at h]

theorem endsFree_concat_iff : EndsFree (before ++ [c]) ↔ isNameChar c = false := by
  rw [endsFree_iff, List.getLast?_concat, Option.any_some]

theorem not_endsFree_concat (h : isNameChar c = true) : ¬ EndsFree (before ++ [c]) := by
  rw [endsFree_concat_iff, h]
  exact Bool.noConfusion

/-- The characters of a name at which no property begins. -/
theorem IsTidied.append_name (h : IsTidied (before ++ u) rest tidied)
    (hu : ∀ c ∈ u, isNameChar c = true)
    (hopening : ¬ (EndsFree before ∧ propertyOpening <+: u ++ rest)) :
    IsTidied before (u ++ rest) (u ++ tidied) := by
  induction u generalizing before with
  | nil => simpa using h
  | cons c u ih =>
    obtain ⟨hc, hu⟩ := List.forall_mem_cons.mp hu
    have hrest : IsTidied (before ++ [c]) (u ++ rest) (u ++ tidied) :=
      ih (by simpa using h) hu fun h => not_endsFree_concat hc h.1
    have hcons := hrest.cons hopening
    rwa [tidyCons_of_isNameChar hc] at hcons

/-! ## The written form of the tokens -/

theorem render_property_cons (key : List Char) (tokens : List Token) :
    render ((Lexeme.field (.prop (String.ofList key))).cons tokens) =
      propertyOpening ++ (key ++ ')' :: render tokens) := by
  simp [Lexeme.cons, render, Token.render, Field.name, propertyOpening]

theorem render_blank_cons (tokens : List Token) : render (Lexeme.blank.cons tokens) =
    if tokens.head? = some .gap then render tokens else ' ' :: render tokens := by
  rcases tokens with _ | ⟨_ | _ | _ | _, tokens⟩ <;> rfl

theorem render_char_cons (c : Char) (tokens : List Token) :
    render ((Lexeme.char c).cons tokens) = c :: render tokens := by
  rcases tokens with _ | ⟨_ | _ | _ | _, tokens⟩ <;> rfl

theorem head?_cons_eq_gap_iff : (lexeme.cons tokens).head? = some .gap ↔ lexeme = .blank := by
  cases lexeme <;> rcases tokens with _ | ⟨_ | _ | _ | _, tokens⟩ <;> simp [Lexeme.cons]

/-- A text begins with a blank or a tab exactly if that is what is read. -/
theorem Begins.isGap_iff (h : Begins before lexeme text later) :
    (text ++ later).head?.any Text.isGap = true ↔ lexeme = .blank := by
  cases h with
  | property | wildcard => exact iff_of_false Bool.false_ne_true nofun
  | keyword _ hf _ =>
    obtain ⟨c, name, hname, -⟩ := exists_keyword_cons hf
    have hc := isNameChar_of_keyword_eq_cons hf hname
    refine iff_of_false (fun hgap => ?_) nofun
    rw [hname] at hgap
    rw [not_isNameChar_of_isGap hgap] at hc
    exact Bool.false_ne_true hc
  | blank hgap => exact iff_of_true hgap rfl
  | char _ hgap _ => exact iff_of_false (by simp [hgap]) nofun

theorem tokensOf_cons (lexeme : Lexeme) (text : List Char) (read : List (Lexeme × List Char)) :
    tokensOf ((lexeme, text) :: read) = lexeme.cons (tokensOf read) := rfl

/-- The tokens begin with a gap exactly if the text does. -/
theorem Scans.head?_eq_gap_iff (h : Scans before s read) :
    (tokensOf read).head? = some .gap ↔ s.head?.any Text.isGap = true := by
  cases h with
  | done => simp [tokensOf]
  | step hbegins _ => rw [tokensOf_cons, head?_cons_eq_gap_iff, hbegins.isGap_iff]

/-- A blank or a tab is written as a tidied text has it. -/
theorem Scans.render_blank (h : Scans before later read) (hgap : Text.isGap c = true) :
    render (Lexeme.blank.cons (tokensOf read)) = tidyCons c later (render (tokensOf read)) := by
  rw [render_blank_cons, tidyCons, if_pos hgap]
  exact if_congr h.head?_eq_gap_iff rfl rfl

/-- **Writing the tokens of a text tidies it.** -/
theorem Scans.isTidied (h : Scans before s read) : IsTidied before s (render (tokensOf read)) := by
  induction h with
  | done => exact .plain fun front rest hsplit => by simp [propertyOpening] at hsplit
  | @step before text later lexeme read hbegins hscans ih =>
    have hopening : ∀ {c}, isNameChar c = false → ¬ (EndsFree before ∧ propertyOpening <+: c :: later) :=
      fun hc h => by simpa [hc] using FieldAhead.isNameChar (.inr h.2)
    rw [tokensOf_cons]
    cases hbegins with
    | @property raw _ hfree hclosed hkey =>
      rw [render_property_cons, List.append_assoc, List.append_assoc, List.singleton_append]
      refine @IsTidied.property before [] raw later _ ?_ (by rwa [List.append_nil]) hclosed ?_
      · exact fun _ _ _ hshorter => absurd hshorter (Nat.not_lt_zero _)
      · rwa [List.append_nil, List.append_assoc, List.append_assoc]
    | @keyword f _ hfree hf hbehind =>
      exact ih.append_name (fun c => isNameChar_of_mem_keyword hf)
        fun h => KeywordAhead.not_opening ⟨hf, later, rfl, hbehind⟩ h.2
    | wildcard => exact ih.cons (hopening (by decide))
    | blank hgap =>
      rw [hscans.render_blank hgap]
      exact ih.cons (hopening (not_isNameChar_of_isGap hgap))
    | char hstar hgap hahead =>
      have hcons := ih.cons fun h => hahead ⟨h.1, .inr h.2⟩
      rwa [tidyCons, if_neg (by simp [hgap]), ← render_char_cons] at hcons

/-! ## Reading the written form -/

/-- A blank for a blank or a tab. -/
def tidyChar (c : Char) : Char :=
  if Text.isGap c then ' ' else c

theorem tidyChar_of_isNameChar (h : isNameChar c = true) : tidyChar c = c := by
  rw [tidyChar, if_neg fun hgap => by simp [not_isNameChar_of_isGap hgap] at h]

/-- The written form begins as the text does. -/
theorem Scans.head?_render (h : Scans before s read) :
    (render (tokensOf read)).head? = s.head?.map tidyChar := by
  induction h with
  | done => rfl
  | @step before text later lexeme read hbegins hscans ih =>
    rw [tokensOf_cons]
    cases hbegins with
    | property => rw [render_property_cons]; rfl
    | @keyword f _ _ hf _ =>
      obtain ⟨c, name, hname, -⟩ := exists_keyword_cons hf
      have hc := isNameChar_of_keyword_eq_cons hf hname
      change (f.name.toList ++ render (tokensOf read)).head? = _
      rw [hname]
      simp [tidyChar_of_isNameChar hc]
    | wildcard => rfl
    | blank hgap =>
      rw [hscans.render_blank hgap, tidyCons, if_pos hgap]
      split
      · next hnext =>
        obtain ⟨d, hd, hdgap⟩ := (Option.any_eq_true _ _).mp hnext
        rw [ih, hd]
        simp [tidyChar, hgap, hdgap]
      · simp [tidyChar, hgap]
    | char _ hgap _ =>
      rw [render_char_cons]
      simp [tidyChar, hgap]

theorem isNameChar_tidyChar (c : Char) : isNameChar (tidyChar c) = isNameChar c := by
  rw [tidyChar]
  split
  · next hgap =>
    rw [not_isNameChar_of_isGap hgap]
    decide
  · rfl

theorem Scans.startsFree_render_iff (h : Scans before s read) :
    StartsFree (render (tokensOf read)) ↔ StartsFree s := by
  rw [startsFree_iff, startsFree_iff, h.head?_render, Option.any_map]
  simp only [isNameChar_tidyChar]

/-- Behind a name, what continues the name in the written form continues it in the text. -/
theorem Scans.of_name_prefix (h : Scans before s read) (hbefore : ¬ EndsFree before)
    (hu : ∀ c ∈ u, isNameChar c = true) (hrender : render (tokensOf read) = u ++ v) :
    ∃ later read', s = u ++ later ∧ Scans (before ++ u) later read' ∧ v = render (tokensOf read') := by
  induction u generalizing before s read with
  | nil => exact ⟨s, read, rfl, by rwa [List.append_nil], hrender.symm⟩
  | cons c u ih =>
    obtain ⟨hc, hname⟩ := List.forall_mem_cons.mp hu
    have hhead := h.head?_render
    rw [hrender] at hhead
    cases h with
    | done => exact absurd hhead nofun
    | @step _ text later lexeme read hbegins hscans =>
      cases hbegins with
      | property hfree | keyword hfree => exact absurd hfree hbefore
      | wildcard =>
        obtain rfl : c = '*' := Option.some.inj hhead
        exact absurd hc (by decide)
      | blank hgap =>
        obtain rfl : c = ' ' := by simpa [tidyChar, hgap] using hhead
        exact absurd hc (by decide)
      | char _ hgap _ =>
        rw [tokensOf_cons, render_char_cons] at hrender
        obtain ⟨rfl, hlater⟩ := List.cons.inj hrender
        obtain ⟨rest, read', rfl, hread', hv⟩ := ih hscans (not_endsFree_concat hc) hname hlater
        exact ⟨rest, read', rfl, by rwa [List.append_assoc] at hread', hv⟩

theorem eq_of_tidyChar_eq {d : Char} (h : tidyChar c = d) (hd : d ≠ ' ') : c = d := by
  rw [tidyChar] at h
  split at h
  · exact absurd h.symm hd
  · exact h

/-- A field that begins in the written form with the last character of a name begins in the text. -/
theorem Scans.fieldAhead_of_render (h : Scans (before ++ [c]) later read)
    (hahead : FieldAhead (c :: render (tokensOf read))) : FieldAhead (c :: later) := by
  have hc := hahead.isNameChar
  rcases hahead with ⟨f, hf, rest, hrest, hbehind⟩ | ⟨rest, hrest⟩
  · obtain ⟨d, name, hname, -⟩ := exists_keyword_cons hf
    rw [hname] at hrest
    obtain ⟨rfl, hrender⟩ := List.cons.inj hrest
    have hchars : ∀ d ∈ name, isNameChar d = true := fun d hd =>
      isNameChar_of_mem_keyword hf (by rw [hname]; exact .tail _ hd)
    obtain ⟨later, read', rfl, hread', rfl⟩ := h.of_name_prefix (not_endsFree_concat hc) hchars hrender
    exact .inl ⟨f, hf, later, by rw [hname]; rfl, hread'.startsFree_render_iff.mp hbehind⟩
  · obtain ⟨rfl, hrender⟩ := List.cons.inj hrest
    have hrest : render (tokensOf read) = "ROP".toList ++ '(' :: rest := hrender.symm
    obtain ⟨later, read', rfl, hread', hparen⟩ :=
      h.of_name_prefix (not_endsFree_concat hc) (fun d hd => isNameChar_of_mem_prop d (.tail _ hd)) hrest
    have hhead := hread'.head?_render
    rw [← hparen] at hhead
    cases later with
    | nil => exact absurd hhead nofun
    | cons d later =>
      obtain rfl := eq_of_tidyChar_eq (Option.some.inj hhead.symm) (by decide)
      exact .inr ⟨later, rfl⟩

theorem endsFree_append_iff (htext : text ≠ []) : EndsFree (before ++ text) ↔ EndsFree text := by
  rw [EndsFree, EndsFree, List.getLast?_append_of_ne_nil _ htext]

/-- What is read at a place of a text can be read at its place in the written form. Of a run of blanks and
tabs only the last one has such a place. -/
theorem Begins.rendered {before' : List Char} (h : Begins before lexeme text later)
    (hread : Scans (before ++ text) later read)
    (hbefore : lexeme = .blank ∨ (EndsFree before' ↔ EndsFree before))
    (hlast : ¬ (lexeme = .blank ∧ (tokensOf read).head? = some .gap)) :
    ∃ text', render (lexeme.cons (tokensOf read)) = text' ++ render (tokensOf read) ∧
      Begins before' lexeme text' (render (tokensOf read)) ∧ (EndsFree text' ↔ EndsFree text) := by
  cases h with
  | @property raw _ hfree hclosed hkey =>
    have hfree' := (hbefore.resolve_left (by simp)).mpr hfree
    have hbegins : Begins before' _ _ (render (tokensOf read)) :=
      .property hfree' (fun hmem => hclosed (Text.trim_subset raw hmem)) (by rwa [Text.trim_trim])
    rw [Text.trim_trim] at hbegins
    have hends : ∀ key, EndsFree (propertyOpening ++ (key ++ [')'])) := fun key => by
      rw [← List.append_assoc]
      exact endsFree_concat_iff.mpr (by decide)
    exact ⟨_, by rw [render_property_cons]; simp, hbegins, iff_of_true (hends _) (hends raw)⟩
  | keyword hfree hf hbehind =>
    have hfree' := (hbefore.resolve_left (by simp)).mpr hfree
    exact ⟨_, rfl, .keyword hfree' hf (hread.startsFree_render_iff.mpr hbehind), Iff.rfl⟩
  | wildcard => exact ⟨_, rfl, .wildcard, Iff.rfl⟩
  | @blank c _ hgap =>
    have hends : ∀ {c}, isNameChar c = false → EndsFree ([] ++ [c]) := endsFree_concat_iff.mpr
    refine ⟨[' '], ?_, .blank (by decide), iff_of_true (hends (by decide)) (hends ?_)⟩
    · rw [render_blank_cons, if_neg fun hnext => hlast ⟨rfl, hnext⟩]
      rfl
    · exact not_isNameChar_of_isGap hgap
  | @char c _ hstar hgap hahead =>
    refine ⟨[c], render_char_cons c _, .char hstar hgap fun h => hahead ?_, Iff.rfl⟩
    exact ⟨(hbefore.resolve_left (by simp)).mp h.1, hread.fieldAhead_of_render h.2⟩

theorem blank_cons_of_head?_eq_gap (h : tokens.head? = some .gap) : Lexeme.blank.cons tokens = tokens := by
  obtain ⟨rest, rfl⟩ := List.head?_eq_some_iff.mp h
  rfl

/-- **The written form is read as the text was.** What stands before it matters to a name alone. -/
theorem Scans.rendered {before' : List Char} (h : Scans before s read)
    (hbefore : s.head?.any Text.isGap = true ∨ (EndsFree before' ↔ EndsFree before)) :
    ∃ read', Scans before' (render (tokensOf read)) read' ∧ tokensOf read' = tokensOf read := by
  induction h generalizing before' with
  | done => exact ⟨[], .done, rfl⟩
  | @step before text later lexeme read hbegins hscans ih =>
    rw [tokensOf_cons]
    by_cases hjoined : lexeme = .blank ∧ (tokensOf read).head? = some .gap
    · obtain ⟨rfl, hnext⟩ := hjoined
      rw [blank_cons_of_head?_eq_gap hnext]
      exact ih (.inl (hscans.head?_eq_gap_iff.mp hnext))
    · obtain ⟨text', hrender, hbegins', hends⟩ :=
        hbegins.rendered hscans (hbefore.imp_left hbegins.isGap_iff.mp) hjoined
      have hafter : EndsFree (before' ++ text') ↔ EndsFree (before ++ text) := by
        rw [endsFree_append_iff hbegins'.text_ne_nil, endsFree_append_iff hbegins.text_ne_nil, hends]
      obtain ⟨read', hread', htokens⟩ := ih (.inr hafter)
      rw [hrender]
      exact ⟨(lexeme, text') :: read', .step hbegins' hread', by rw [tokensOf_cons, htokens]⟩

/-! ## What the tokens say -/

/-- **What the tokens of a template say of it, and when it has none.** Their written form is the template
with single blanks outside of properties and with trimmed keys, and it has the same tokens. Fixed texts are
not empty, and neither they nor gaps stand side by side. Fields stand exactly where a keyword or a property
begins. A template has no tokens exactly if some property has no key, and the first such property is
reported. -/
theorem tokenize_faithful (template : List Char) :
    (∀ tokens, tokenize template = .ok tokens →
      ((∀ text, IsTidied [] template text ↔ text = render tokens) ∧
        tokenize (render tokens) = .ok tokens) ∧
      ((∀ token ∈ tokens, token.IsProper) ∧ tokens.IsChain Token.Apart) ∧
      ∃ parts, parts.map Part.token = tokens ∧ IsLayout [] template parts) ∧
    ∀ e, tokenize template = .error e ↔ FirstRefused [] template e := by
  refine ⟨fun tokens h => ⟨?_, tokenize_spec h, ?_⟩, fun e => tokenize_eq_error_iff_fails.trans fails_iff⟩
  · obtain ⟨read, hread, rfl⟩ := tokenize_eq_ok_iff.mp h
    refine ⟨fun text => ⟨fun htidied => htidied.unique hread.isTidied, ?_⟩, ?_⟩
    · rintro rfl
      exact hread.isTidied
    · exact tokenize_eq_ok_iff.mpr (hread.rendered (.inr Iff.rfl))
  · obtain ⟨read, hread, rfl⟩ := tokenize_eq_ok_iff.mp h
    exact hread.isLayout

/-- A keyword that is part of a name is none, and blanks inside a key stay. -/
theorem tokenize_faithful_gluedKeyword :
    ∃ tokens, tokenize "MYLEVEL \t PROP( user  id )*MESSAGE".toList = .ok tokens ∧
      tokens = [.literal "MYLEVEL".toList, .gap, .field (.prop "user  id"), .wildcard, .field .message] ∧
      IsTidied [] "MYLEVEL \t PROP( user  id )*MESSAGE".toList "MYLEVEL PROP(user  id)*MESSAGE".toList ∧
      tokenize "MYLEVEL PROP(user  id)*MESSAGE".toList = .ok tokens := by
  have hread : tokenize "MYLEVEL \t PROP( user  id )*MESSAGE".toList = .ok
    [.literal "MYLEVEL".toList, .gap, .field (.prop "user  id"), .wildcard, .field .message] := by decide
  have hwritten := ((tokenize_faithful _).1 _ hread).1
  exact ⟨_, hread, rfl, (hwritten.1 _).mpr (by decide), hwritten.2⟩

end LogIntake.Template
