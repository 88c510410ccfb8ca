import LogIntake.Template.Basic
import Mathlib.Data.List.Chain

/-!
# The tokens of a template

* `lexemeAt_eq_ok`: what a lexeme says of the character at which it begins.
* `Token.IsProper`, `Token.Apart`: fixed texts are not empty and hold no blanks or tabs, and neither
  gaps nor fixed texts stand side by side.
* **`tokenize_spec`**: so it is in every template that has been read.
* `isAllBlank_eq_false`: a template with a field has a character that is no white space.
-/

namespace LogIntake.Template

/-! ## Lexemes -/

variable {prev : Option Char} {c : Char} {rest s : List Char} {lexeme : Lexeme} {n : Nat}

theorem keywordAt?_eq_some {f : Field} (h : keywordAt? (c :: rest) = some f) :
    Text.isBlank c = false := by
  have hsolid : ∀ f ∈ Field.keywords, f.name.toList.head?.any Text.isBlank = false := by decide
  have hne : ∀ f ∈ Field.keywords, f.name.toList ≠ [] := by decide
  have hmem := List.mem_of_find?_eq_some h
  have hprefix := List.find?_some h
  rw [Bool.and_eq_true, List.isPrefixOf_iff_prefix] at hprefix
  obtain ⟨d, later, hname⟩ := List.exists_cons_of_ne_nil (hne f hmem)
  have hd : Text.isBlank d = false := by simpa [hname] using hsolid f hmem
  obtain ⟨more, hmore⟩ := hprefix.1
  rw [hname] at hmore
  rwa [← (List.cons.inj hmore).1]

/-- A field begins at a character that is no white space, and a character that stands for itself is
no blank or tab. -/
theorem lexemeAt_eq_ok (h : lexemeAt prev c rest = .ok (lexeme, n)) :
    (∀ f, lexeme = .field f → Text.isBlank c = false) ∧
      ∀ d, lexeme = .char d → Text.isGap d = false := by
  unfold lexemeAt at h
  dsimp only at h
  split at h
  · next hproperty =>
    rw [Bool.and_eq_true, List.isPrefixOf_iff_prefix] at hproperty
    obtain ⟨more, hmore⟩ := hproperty.2
    obtain rfl : 'P' = c := (List.cons.inj hmore).1
    cases hread : propertyAt (rest.drop (propertyOpening.length - 1)) with
    | error e => simp [hread, Except.map] at h
    | ok read =>
      simp only [hread, Except.map, Except.ok.injEq, Prod.mk.injEq] at h
      obtain ⟨rfl, -⟩ := h
      exact ⟨fun f _ => by decide, fun d hd => absurd hd (by simp)⟩
  · split at h
    · next f hkeyword =>
      simp only [Except.ok.injEq, Prod.mk.injEq] at h
      obtain ⟨rfl, -⟩ := h
      refine ⟨fun f _ => ?_, fun d hd => absurd hd (by simp)⟩
      split at hkeyword
      · exact keywordAt?_eq_some hkeyword
      · exact absurd hkeyword (by simp)
    · split at h
      · simp only [Except.ok.injEq, Prod.mk.injEq] at h
        obtain ⟨rfl, -⟩ := h
        exact ⟨fun f hf => absurd hf (by simp), fun d hd => absurd hd (by simp)⟩
      · split at h
        · simp only [Except.ok.injEq, Prod.mk.injEq] at h
          obtain ⟨rfl, -⟩ := h
          exact ⟨fun f hf => absurd hf (by simp), fun d hd => absurd hd (by simp)⟩
        · next hgap =>
          simp only [Except.ok.injEq, Prod.mk.injEq] at h
          obtain ⟨rfl, -⟩ := h
          refine ⟨fun f hf => absurd hf (by simp), fun d hd => ?_⟩
          obtain rfl := Lexeme.char.inj hd
          exact Bool.eq_false_iff.mpr hgap

variable {lexemes : List Lexeme}

theorem lexemesFrom_eq_ok {skip : Nat} (h : lexemesFrom prev skip s = .ok lexemes) :
    (∀ f, .field f ∈ lexemes → Text.isAllBlank s = false) ∧
      ∀ d, .char d ∈ lexemes → Text.isGap d = false := by
  induction s generalizing prev skip lexemes with
  | nil =>
    obtain rfl : [] = lexemes := by cases skip <;> simpa [lexemesFrom] using h
    exact ⟨fun f hf => absurd hf List.not_mem_nil, fun d hd => absurd hd List.not_mem_nil⟩
  | cons c s ih =>
    have hblank : Text.isAllBlank s = false → Text.isAllBlank (c :: s) = false := fun hs => by
      rw [Text.isAllBlank, List.all_cons, Bool.and_eq_false_iff]
      exact .inr hs
    cases skip with
    | succ skip =>
      obtain ⟨hfields, hchars⟩ := ih h
      exact ⟨fun f hf => hblank (hfields f hf), hchars⟩
    | zero =>
      rw [lexemesFrom] at h
      cases hread : lexemeAt prev c s with
      | error e => simp [hread, bind, Except.bind] at h
      | ok read =>
        obtain ⟨lexeme, more⟩ := read
        cases hlater : lexemesFrom (some c) more s with
        | error e => simp [hread, hlater, bind, Except.bind] at h
        | ok later =>
          simp only [hread, hlater, bind, Except.bind, pure, Except.pure, Except.ok.injEq] at h
          subst h
          obtain ⟨hfield, hchar⟩ := lexemeAt_eq_ok hread
          obtain ⟨hfields, hchars⟩ := ih hlater
          refine ⟨fun f hf => ?_, fun d hd => ?_⟩
          · rcases List.mem_cons.mp hf with rfl | hf
            · rw [Text.isAllBlank, List.all_cons, hfield f rfl, Bool.false_and]
            · exact hblank (hfields f hf)
          · rcases List.mem_cons.mp hd with rfl | hd
            · exact hchar d rfl
            · exact hchars d hd

/-! ## Tokens -/

/-- A fixed text is not empty and holds no blanks or tabs. -/
def Token.IsProper : Token → Prop
  | .literal text => text ≠ [] ∧ ∀ c ∈ text, Text.isGap c = false
  | _ => True

/-- Two neighbours are not parts of one gap or one fixed text. -/
def Token.Apart : Token → Token → Prop
  | .gap, .gap => False
  | .literal _, .literal _ => False
  | _, _ => True

variable {tokens : List Token}

/-- A lexeme in front of tokens that stand apart. -/
theorem Lexeme.cons_spec (hlexeme : ∀ c, lexeme = .char c → Text.isGap c = false)
    (hproper : ∀ token ∈ tokens, token.IsProper) (hapart : tokens.IsChain Token.Apart) :
    (∀ token ∈ lexeme.cons tokens, token.IsProper) ∧ (lexeme.cons tokens).IsChain Token.Apart := by
  -- a token that is not joined to the next one
  have hnew : ∀ token : Token, token.IsProper → (∀ next ∈ tokens.head?, token.Apart next) →
      (∀ other ∈ token :: tokens, other.IsProper) ∧ (token :: tokens).IsChain Token.Apart :=
    fun token htoken hnext => ⟨List.forall_mem_cons.mpr ⟨htoken, hproper⟩,
      List.isChain_cons.mpr ⟨hnext, hapart⟩⟩
  cases lexeme with
  | field f => exact hnew _ trivial fun next _ => trivial
  | wildcard => exact hnew _ trivial fun next _ => trivial
  | blank =>
    rcases tokens with _ | ⟨_ | _ | _ | _, tokens⟩
    case cons.gap => exact ⟨hproper, hapart⟩
    all_goals exact hnew _ trivial (by simp [Token.Apart])
  | char c =>
    have hc := hlexeme c rfl
    rcases tokens with _ | ⟨_ | _ | _ | text, tokens⟩
    case cons.literal =>
      obtain ⟨⟨_, htext⟩, hlater⟩ := List.forall_mem_cons.mp hproper
      obtain ⟨hnext, hchain⟩ := List.isChain_cons.mp hapart
      refine ⟨List.forall_mem_cons.mpr ⟨⟨List.cons_ne_nil _ _, ?_⟩, hlater⟩,
        List.isChain_cons.mpr ⟨fun next h => ?_, hchain⟩⟩
      · exact List.forall_mem_cons.mpr ⟨hc, htext⟩
      · have := hnext next h
        cases next <;> trivial
    all_goals exact hnew (.literal [c]) ⟨List.cons_ne_nil _ _, by simpa using hc⟩ (by simp [Token.Apart])

/-- **The fixed texts of a template that has been read are not empty and hold no blanks or tabs, and
neither gaps nor fixed texts stand side by side.** -/
theorem tokenize_spec (h : tokenize s = .ok tokens) :
    (∀ token ∈ tokens, token.IsProper) ∧ tokens.IsChain Token.Apart := by
  unfold tokenize lexemes at h
  cases hread : lexemesFrom none 0 s with
  | error e => simp [hread, Except.map] at h
  | ok lexemes =>
    simp only [hread, Except.map, Except.ok.injEq] at h
    subst h
    have hchars := (lexemesFrom_eq_ok hread).2
    clear hread
    induction lexemes with
    | nil => exact ⟨fun token ht => absurd ht List.not_mem_nil, .nil⟩
    | cons lexeme lexemes ih =>
      obtain ⟨hproper, hapart⟩ := ih fun d hd => hchars d (.tail _ hd)
      exact Lexeme.cons_spec (fun c hc => hchars c (by rw [hc]; exact .head _)) hproper hapart

theorem mem_lexemes_of_field {lexemes : List Lexeme} {f : Field}
    (h : .field f ∈ lexemes.foldr Lexeme.cons []) : .field f ∈ lexemes := by
  induction lexemes with
  | nil => exact absurd h List.not_mem_nil
  | cons lexeme lexemes ih =>
    rw [List.foldr_cons] at h
    generalize lexemes.foldr Lexeme.cons [] = tokens at h ih
    cases lexeme with
    | field g =>
      rcases List.mem_cons.mp h with heq | h
      · obtain rfl := Token.field.inj heq
        exact .head _
      · exact .tail _ (ih h)
    | wildcard => exact .tail _ (ih (by simpa [Lexeme.cons] using h))
    | blank | char c =>
      refine .tail _ (ih ?_)
      rcases tokens with _ | ⟨_ | _ | _ | _, tokens⟩ <;> simp [Lexeme.cons] at h ⊢ <;> exact h

/-- A template with a field has a character that is no white space. -/
theorem isAllBlank_eq_false {f : Field} (h : tokenize s = .ok tokens) (hf : .field f ∈ tokens) :
    Text.isAllBlank s = false := by
  unfold tokenize lexemes at h
  cases hread : lexemesFrom none 0 s with
  | error e => simp [hread, Except.map] at h
  | ok lexemes =>
    simp only [hread, Except.map, Except.ok.injEq] at h
    subst h
    exact (lexemesFrom_eq_ok hread).1 f (mem_lexemes_of_field hf)

end LogIntake.Template
