import LogIntake.Proofs.Template.Tokens
import Mathlib.Data.List.TakeWhile

/-!
# The lexemes of a template

* `EndsFree`, `StartsFree`: what may stand before and behind a keyword; `FieldAhead`: a text begins with a
  field, if nothing before it forbids.
* `Fault`: why a property is refused.
* `Begins`: what lexeme a text begins with, where `before` stands in front of it.
* `Scans`, `Fails`: a text is read lexeme by lexeme, to its end or up to a property that is refused.
* **`tokenize_eq_ok_iff`**, **`tokenize_eq_error_iff_fails`**: a template is read in one of these ways.
-/

namespace LogIntake.Template

/-- No name ends at the end of a text. -/
def EndsFree (s : List Char) : Prop :=
  ∀ c ∈ s.getLast?, isNameChar c = false

/-- No name begins with a text. -/
def StartsFree (s : List Char) : Prop :=
  ∀ c ∈ s.head?, isNameChar c = false

/-- A text begins with a keyword, which no name continues. -/
def KeywordAhead (f : Field) (s : List Char) : Prop :=
  f ∈ Field.keywords ∧ ∃ later, s = f.name.toList ++ later ∧ StartsFree later

/-- A text begins with a keyword or with the opening of a property. -/
def FieldAhead (s : List Char) : Prop :=
  (∃ f, KeywordAhead f s) ∨ propertyOpening <+: s

/-- Why a property is refused, whose opening has the text `after` behind it. -/
inductive Fault (after : List Char) : TemplateError → Prop where
  | unterminated : ')' ∉ after → Fault after .unterminatedProperty
  | blankKey {raw later : List Char} :
      after = raw ++ ')' :: later → ')' ∉ raw → Text.isAllBlank raw = true →
        Fault after .emptyPropertyKey

/-- A lexeme, its text and what follows, where `before` stands in front of them. -/
inductive Begins (before : List Char) : Lexeme → List Char → List Char → Prop where
  | property {raw later : List Char} :
      EndsFree before → ')' ∉ raw → Text.trim raw ≠ [] →
        Begins before (.field (.prop (String.ofList (Text.trim raw))))
          (propertyOpening ++ (raw ++ [')'])) later
  | keyword {f : Field} {later : List Char} :
      EndsFree before → f ∈ Field.keywords → StartsFree later →
        Begins before (.field f) f.name.toList later
  | wildcard {later : List Char} : Begins before .wildcard ['*'] later
  | blank {c : Char} {later : List Char} : Text.isGap c = true → Begins before .blank [c] later
  | char {c : Char} {later : List Char} :
      c ≠ '*' → Text.isGap c = false → ¬ (EndsFree before ∧ FieldAhead (c :: later)) →
        Begins before (.char c) [c] later

/-- A text is read to its end. -/
inductive Scans : List Char → List Char → List (Lexeme × List Char) → Prop where
  | done {before : List Char} : Scans before [] []
  | step {before text later : List Char} {lexeme : Lexeme} {read : List (Lexeme × List Char)} :
      Begins before lexeme text later → Scans (before ++ text) later read →
        Scans before (text ++ later) ((lexeme, text) :: read)

/-- A text is read up to a property that is refused. -/
inductive Fails : List Char → List Char → TemplateError → Prop where
  | here {before after : List Char} {e : TemplateError} :
      EndsFree before → Fault after e → Fails before (propertyOpening ++ after) e
  | later {before text later : List Char} {lexeme : Lexeme} {e : TemplateError} :
      Begins before lexeme text later → Fails (before ++ text) later e →
        Fails before (text ++ later) e

/-- The tokens of what has been read. -/
def tokensOf (read : List (Lexeme × List Char)) : List Token :=
  (read.map Prod.fst).foldr Lexeme.cons []

variable {before text later after raw s : List Char} {c : Char} {f g : Field} {lexeme : Lexeme}
  {e : TemplateError} {read : List (Lexeme × List Char)} {tokens : List Token}

/-! ## Keywords -/

theorem isNameChar_of_mem_keyword (hf : f ∈ Field.keywords) (hc : c ∈ f.name.toList) :
    isNameChar c = true := by
  have hall : ∀ f ∈ Field.keywords, f.name.toList.all isNameChar = true := by decide
  exact List.all_eq_true.mp (hall f hf) c hc

theorem exists_keyword_cons (hf : f ∈ Field.keywords) :
    ∃ c rest, f.name.toList = c :: rest ∧ c ≠ 'P' := by
  have hall : ∀ f ∈ Field.keywords, f.name.toList ≠ [] ∧ f.name.toList.head? ≠ some 'P' := by decide
  obtain ⟨c, rest, hname⟩ := List.exists_cons_of_ne_nil (hall f hf).1
  exact ⟨c, rest, hname, by simpa [hname] using (hall f hf).2⟩

theorem isNameChar_of_keyword_eq_cons (hf : f ∈ Field.keywords) (hname : f.name.toList = c :: text) :
    isNameChar c = true :=
  isNameChar_of_mem_keyword hf (by rw [hname]; exact .head _)

theorem isNameChar_of_mem_prop : ∀ c ∈ "PROP".toList, isNameChar c = true :=
  List.all_eq_true.mp (by decide)

theorem not_isNameChar_of_isGap (h : Text.isGap c = true) : isNameChar c = false := by
  simp only [Text.isGap, Bool.or_eq_true, beq_iff_eq] at h
  rcases h with rfl | rfl <;> decide

/-- A keyword is all that belongs to a name. -/
theorem KeywordAhead.takeWhile_eq (h : KeywordAhead f s) : s.takeWhile isNameChar = f.name.toList := by
  obtain ⟨hf, later, rfl, hlater⟩ := h
  rw [List.takeWhile_append_of_pos fun c hc => isNameChar_of_mem_keyword hf hc]
  cases later with
  | nil => exact List.append_nil _
  | cons c later => rw [List.takeWhile_cons_of_neg (by simp [hlater c rfl]), List.append_nil]

theorem KeywordAhead.unique (hf : KeywordAhead f s) (hg : KeywordAhead g s) : f = g := by
  have hall : ∀ f ∈ Field.keywords, ∀ g ∈ Field.keywords, f.name.toList = g.name.toList → f = g := by
    decide
  exact hall f hf.1 g hg.1 (hf.takeWhile_eq.symm.trans hg.takeWhile_eq)

theorem KeywordAhead.not_opening (h : KeywordAhead f s) : ¬ propertyOpening <+: s := by
  obtain ⟨hf, later, rfl, -⟩ := h
  obtain ⟨c, rest, hname, hc⟩ := exists_keyword_cons hf
  rintro ⟨after, hafter⟩
  rw [hname] at hafter
  exact hc (List.cons.inj hafter).1.symm

/-- A field begins with a character that belongs to a name. -/
theorem FieldAhead.isNameChar (h : FieldAhead (c :: later)) : isNameChar c = true := by
  rcases h with ⟨f, hf, rest, hrest, -⟩ | ⟨rest, hrest⟩
  · obtain ⟨d, name, hname, -⟩ := exists_keyword_cons hf
    rw [hname] at hrest
    rw [(List.cons.inj hrest).1]
    exact isNameChar_of_keyword_eq_cons hf hname
  · rw [← (List.cons.inj hrest).1]
    decide

theorem startsFree_iff : StartsFree s ↔ s.head?.any isNameChar = false := by
  cases s <;> simp [StartsFree]

theorem endsFree_iff : EndsFree s ↔ s.getLast?.any isNameChar = false := by
  cases h : s.getLast? <;> simp [EndsFree, h]

theorem keywordAt?_eq_some_iff : keywordAt? s = some f ↔ KeywordAhead f s := by
  have hahead : ∀ g, keywordAt? s = some g → KeywordAhead g s := by
    intro g hg
    have hread := List.find?_some hg
    rw [Bool.and_eq_true, List.isPrefixOf_iff_prefix] at hread
    obtain ⟨⟨later, rfl⟩, hbehind⟩ := hread
    refine ⟨List.mem_of_find?_eq_some hg, later, rfl, startsFree_iff.mpr ?_⟩
    simpa using hbehind
  refine ⟨hahead f, fun h => ?_⟩
  cases hread : keywordAt? s with
  | some g => rw [(hahead g hread).unique h]
  | none =>
    obtain ⟨hf, later, rfl, hbehind⟩ := h
    have hnone := List.find?_eq_none.mp hread f hf
    simp [startsFree_iff.mp hbehind] at hnone

/-! ## Properties -/

theorem propertyAt_of_not_mem (h : ')' ∉ after) : propertyAt after = .error .unterminatedProperty := by
  have hall : after.takeWhile (· != ')') = after :=
    List.takeWhile_eq_self_iff.mpr fun c hc => bne_iff_ne.mpr (ne_of_mem_of_not_mem hc h)
  simp only [propertyAt, hall, if_true]

theorem propertyAt_append (h : ')' ∉ raw) : propertyAt (raw ++ ')' :: later) =
    if (Text.trim raw).isEmpty then .error .emptyPropertyKey
    else .ok (.prop (String.ofList (Text.trim raw)), raw.length + 1) := by
  have hraw : (raw ++ ')' :: later).takeWhile (· != ')') = raw := by
    rw [List.takeWhile_append_of_pos fun c hc => bne_iff_ne.mpr (ne_of_mem_of_not_mem hc h),
      List.takeWhile_cons_of_neg (by simp), List.append_nil]
  simp only [propertyAt, hraw]
  rw [if_neg (by simp)]

theorem propertyAt_of_fault (h : Fault after e) : propertyAt after = .error e := by
  cases h with
  | unterminated hopen => exact propertyAt_of_not_mem hopen
  | blankKey hafter hclosed hblank =>
    rw [hafter, propertyAt_append hclosed, (Text.trim_eq_nil_iff _).mpr hblank]
    rfl

/-- An opening has a key behind it, or a fault. -/
theorem closed_or_fault (after : List Char) :
    (∃ raw later, after = raw ++ ')' :: later ∧ ')' ∉ raw ∧ Text.trim raw ≠ []) ∨ ∃ e, Fault after e := by
  by_cases hmem : ')' ∈ after
  · obtain ⟨raw, later, hafter, hclosed⟩ := List.eq_append_cons_of_mem hmem
    by_cases hblank : Text.isAllBlank raw = true
    · exact .inr ⟨_, .blankKey hafter hclosed hblank⟩
    · exact .inl ⟨raw, later, hafter, hclosed, fun h => hblank ((Text.trim_eq_nil_iff raw).mp h)⟩
  · exact .inr ⟨_, .unterminated hmem⟩

/-! ## One lexeme -/

theorem lexemeAt_opening (hfree : EndsFree before) :
    lexemeAt before.getLast? 'P' ("ROP(".toList ++ after) =
      (propertyAt after).map fun (f, n) => (.field f, 4 + n) := by
  unfold lexemeAt
  dsimp only
  rw [endsFree_iff.mp hfree, if_pos]
  · rfl
  · exact List.isPrefixOf_iff_prefix.mpr ⟨after, rfl⟩

theorem lexemeAt_keyword (hfree : EndsFree before) (h : KeywordAhead f (c :: later)) :
    lexemeAt before.getLast? c later = .ok (.field f, f.name.toList.length - 1) := by
  unfold lexemeAt
  dsimp only
  rw [endsFree_iff.mp hfree, if_neg, Bool.not_false, if_pos rfl, keywordAt?_eq_some_iff.mpr h]
  rw [Bool.not_false, Bool.true_and, List.isPrefixOf_iff_prefix]
  exact h.not_opening

/-- Where no field begins, a character is read by itself. -/
theorem lexemeAt_single (h : ¬ (EndsFree before ∧ FieldAhead (c :: later))) :
    lexemeAt before.getLast? c later =
      if c = '*' then .ok (.wildcard, 0) else if Text.isGap c then .ok (.blank, 0)
      else .ok (.char c, 0) := by
  unfold lexemeAt
  dsimp only
  by_cases hfree : EndsFree before
  · have hahead : ¬ FieldAhead (c :: later) := fun hahead => h ⟨hfree, hahead⟩
    have hkeyword : keywordAt? (c :: later) = none :=
      Option.eq_none_iff_forall_ne_some.mpr fun f hf =>
        hahead (.inl ⟨f, keywordAt?_eq_some_iff.mp hf⟩)
    rw [endsFree_iff.mp hfree, if_neg, Bool.not_false, if_pos rfl, hkeyword]
    rw [Bool.not_false, Bool.true_and, List.isPrefixOf_iff_prefix]
    exact fun hopening => hahead (.inr hopening)
  · rw [endsFree_iff, Bool.not_eq_false] at hfree
    rw [hfree]
    rfl

/-- A text begins with a lexeme or with a property that is refused. -/
theorem begins_or_fault (before : List Char) (c : Char) (rest : List Char) :
    (∃ lexeme text later, c :: rest = text ++ later ∧ Begins before lexeme text later) ∨
      ∃ after e, EndsFree before ∧ c :: rest = propertyOpening ++ after ∧ Fault after e := by
  by_cases h : EndsFree before ∧ FieldAhead (c :: rest)
  · obtain ⟨hfree, ⟨f, hf, later, hlater, hbehind⟩ | ⟨after, hafter⟩⟩ := h
    · exact .inl ⟨_, _, later, hlater, .keyword hfree hf hbehind⟩
    · rcases closed_or_fault after with ⟨raw, later, rfl, hclosed, hkey⟩ | ⟨e, he⟩
      · refine .inl ⟨_, _, later, ?_, .property hfree hclosed hkey⟩
        rw [← hafter, List.append_assoc, List.append_assoc]
        rfl
      · exact .inr ⟨after, e, hfree, hafter.symm, he⟩
  · left
    by_cases hstar : c = '*'
    · exact ⟨_, _, rest, by rw [hstar]; rfl, .wildcard⟩
    · cases hgap : Text.isGap c with
      | true => exact ⟨_, [c], rest, rfl, .blank hgap⟩
      | false => exact ⟨_, [c], rest, rfl, .char hstar hgap h⟩

/-! ## Lexeme by lexeme -/

theorem getLast?_concat_append (before : List Char) (c : Char) (text : List Char) :
    (before ++ [c] ++ text).getLast? = (before ++ c :: text).getLast? := by
  rw [List.append_assoc, List.singleton_append]

theorem lexemesFrom_skip (before text later : List Char) :
    lexemesFrom before.getLast? text.length (text ++ later) =
      lexemesFrom (before ++ text).getLast? 0 later := by
  induction text generalizing before with
  | nil => rw [List.append_nil]; rfl
  | cons c text ih =>
    have hlast : (before ++ [c]).getLast? = some c := List.getLast?_concat
    rw [List.cons_append, List.length_cons, lexemesFrom, ← hlast, ih, getLast?_concat_append]

theorem lexemesFrom_cons (c : Char) (text : List Char)
    (h : lexemeAt before.getLast? c (text ++ later) = .ok (lexeme, text.length)) :
    lexemesFrom before.getLast? 0 (c :: text ++ later) =
      (lexemesFrom (before ++ c :: text).getLast? 0 later).map (lexeme :: ·) := by
  have hlast : (before ++ [c]).getLast? = some c := List.getLast?_concat
  rw [List.cons_append, lexemesFrom, h, ← getLast?_concat_append, ← lexemesFrom_skip, hlast]
  rfl

theorem Begins.lexemesFrom_eq (h : Begins before lexeme text later) :
    lexemesFrom before.getLast? 0 (text ++ later) =
      (lexemesFrom (before ++ text).getLast? 0 later).map (lexeme :: ·) := by
  cases h with
  | @property raw _ hfree hclosed hkey =>
    refine lexemesFrom_cons 'P' ("ROP(".toList ++ (raw ++ [')'])) ?_
    have hread : propertyAt (raw ++ ')' :: later) = _ := propertyAt_append hclosed
    rw [if_neg (by simpa using hkey)] at hread
    have hlength : ("ROP(".toList ++ (raw ++ [')'])).length = 4 + (raw.length + 1) := by
      rw [List.length_append, List.length_append]
      rfl
    rw [hlength, List.append_assoc, List.append_assoc, List.singleton_append, lexemeAt_opening hfree,
      hread]
    rfl
  | @keyword f _ hfree hf hbehind =>
    obtain ⟨c, rest, hname, -⟩ := exists_keyword_cons hf
    rw [hname]
    refine lexemesFrom_cons c rest ?_
    rw [lexemeAt_keyword (f := f) hfree ⟨hf, later, by rw [hname]; rfl, hbehind⟩, hname]
    rfl
  | wildcard =>
    refine lexemesFrom_cons _ [] ?_
    rw [lexemeAt_single fun h => absurd h.2.isNameChar (by decide)]
    rfl
  | blank hgap =>
    refine lexemesFrom_cons _ [] ?_
    rw [lexemeAt_single fun h => absurd h.2.isNameChar (by simp [not_isNameChar_of_isGap hgap])]
    rw [if_neg (by rintro rfl; exact absurd hgap (by decide)), if_pos hgap]
    rfl
  | char hstar hgap hfield =>
    refine lexemesFrom_cons _ [] ?_
    rw [List.nil_append, lexemeAt_single hfield, if_neg hstar, if_neg (by simp [hgap])]
    rfl

theorem Scans.lexemesFrom_eq (h : Scans before s read) :
    lexemesFrom before.getLast? 0 s = .ok (read.map Prod.fst) := by
  induction h with
  | done => rfl
  | step hbegins _ ih => rw [hbegins.lexemesFrom_eq, ih]; rfl

theorem Fails.lexemesFrom_eq (h : Fails before s e) : lexemesFrom before.getLast? 0 s = .error e := by
  induction h with
  | @here before after e hfree hfault =>
    change lexemesFrom before.getLast? 0 ('P' :: ("ROP(".toList ++ after)) = _
    rw [lexemesFrom, lexemeAt_opening hfree, propertyAt_of_fault hfault]
    rfl
  | later hbegins _ ih => rw [hbegins.lexemesFrom_eq, ih]; rfl

theorem Begins.text_ne_nil (h : Begins before lexeme text later) : text ≠ [] := by
  cases h with
  | property => exact List.cons_ne_nil _ _
  | keyword _ hf _ =>
    obtain ⟨c, rest, hname, -⟩ := exists_keyword_cons hf
    rw [hname]
    exact List.cons_ne_nil c rest
  | wildcard | blank | char => exact List.cons_ne_nil _ _

/-- Every text is read to its end or up to a property that is refused. -/
theorem scans_or_fails (before s : List Char) : (∃ read, Scans before s read) ∨ ∃ e, Fails before s e := by
  -- what is left after a lexeme is shorter
  induction hlength : s.length using Nat.strong_induction_on generalizing before s with
  | _ n ih =>
    cases s with
    | nil => exact .inl ⟨[], .done⟩
    | cons c rest =>
      rcases begins_or_fault before c rest with
        ⟨lexeme, text, later, hsplit, hbegins⟩ | ⟨after, e, hfree, hsplit, hfault⟩
      · rw [hsplit] at hlength ⊢
        have hshorter : later.length < n := by
          have := List.length_pos_iff.mpr hbegins.text_ne_nil
          rw [List.length_append] at hlength
          omega
        rcases ih _ hshorter (before ++ text) later rfl with ⟨read, hread⟩ | ⟨e, he⟩
        · exact .inl ⟨_, .step hbegins hread⟩
        · exact .inr ⟨e, .later hbegins he⟩
      · rw [hsplit]
        exact .inr ⟨e, .here hfree hfault⟩

/-- **A template that is understood is read to its end.** -/
theorem tokenize_eq_ok_iff : tokenize s = .ok tokens ↔
    ∃ read, Scans [] s read ∧ tokensOf read = tokens := by
  have htokens : ∀ {read}, Scans [] s read → tokenize s = .ok (tokensOf read) := fun h => by
    rw [tokenize, lexemes, ← List.getLast?_nil (α := Char), h.lexemesFrom_eq]
    rfl
  constructor
  · intro h
    rcases scans_or_fails [] s with ⟨read, hread⟩ | ⟨e, he⟩
    · exact ⟨read, hread, Except.ok.inj ((htokens hread).symm.trans h)⟩
    · rw [tokenize, lexemes, ← List.getLast?_nil (α := Char), he.lexemesFrom_eq] at h
      cases h
  · rintro ⟨read, hread, rfl⟩
    exact htokens hread

/-- **A template that is refused is read up to the property that is to blame.** -/
theorem tokenize_eq_error_iff_fails : tokenize s = .error e ↔ Fails [] s e := by
  have herror : ∀ {e}, Fails [] s e → tokenize s = .error e := fun h => by
    rw [tokenize, lexemes, ← List.getLast?_nil (α := Char), h.lexemesFrom_eq]
    rfl
  refine ⟨fun h => ?_, herror⟩
  rcases scans_or_fails [] s with ⟨read, hread⟩ | ⟨e', he⟩
  · rw [tokenize_eq_ok_iff.mpr ⟨read, hread, rfl⟩] at h
    cases h
  · obtain rfl := Except.error.inj ((herror he).symm.trans h)
    exact he

end LogIntake.Template
