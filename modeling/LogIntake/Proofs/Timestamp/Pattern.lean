import LogIntake.Timestamp.Pattern
import Mathlib.Data.List.Chain

/-!
# What a timestamp pattern says

* `Tells`: a pattern tells a sequence of lexemes, with quotes around what stands for itself.
* `Spells`: a pattern spells tokens, none of which is empty or could be joined with the next.
* `lexemesFrom_eq_ok_iff`, `foldr_cons_iff`: reading the lexemes, and joining them.
* **`tokenize_eq_ok_iff`**: the tokens of a pattern are those that it spells.
-/

namespace LogIntake.Timestamp

/-- A pattern tells lexemes, from inside or outside quotes on. Two quotes in a row stand for one
everywhere; a single one opens or closes quoted text. Letters outside quotes stand for parts of a
date-time, all other characters for themselves. -/
inductive Tells : Bool → List Lexeme → List Char → Prop where
  | done : Tells false [] []
  | quote {quoted : Bool} {lexemes : List Lexeme} {rest : List Char} :
      Tells quoted lexemes rest → Tells quoted (.char '\'' :: lexemes) ('\'' :: '\'' :: rest)
  | toggle {quoted : Bool} {lexemes : List Lexeme} {rest : List Char} :
      rest.head? ≠ some '\'' → Tells (!quoted) lexemes rest → Tells quoted lexemes ('\'' :: rest)
  | letter {c : Char} {lexemes : List Lexeme} {rest : List Char} :
      Text.isAsciiLetter c = true → Tells false lexemes rest →
        Tells false (.letter c :: lexemes) (c :: rest)
  | plain {c : Char} {lexemes : List Lexeme} {rest : List Char} :
      c ≠ '\'' → Text.isAsciiLetter c = false → Tells false lexemes rest →
        Tells false (.char c :: lexemes) (c :: rest)
  | quoted {c : Char} {lexemes : List Lexeme} {rest : List Char} :
      c ≠ '\'' → Tells true lexemes rest → Tells true (.char c :: lexemes) (c :: rest)

/-- The lexemes of a token. -/
def Token.lexemes : Token → List Lexeme
  | .letters letter count => List.replicate count (.letter letter)
  | .literal text => text.map .char

/-- A token has at least one character. -/
def Token.IsProper : Token → Prop
  | .letters _ count => 0 < count
  | .literal text => text ≠ []

/-- The letter of a run; a fixed text has none. -/
def Token.letter? : Token → Option Char
  | .letters letter _ => some letter
  | .literal _ => none

/-- Two neighbours are not parts of one token. -/
def Token.Apart (a b : Token) : Prop :=
  a.letter? ≠ b.letter?

/-- A pattern spells tokens: runs of one letter each, and fixed texts, each as long as it can be. -/
structure Spells (tokens : List Token) (pattern : List Char) : Prop where
  proper : ∀ token ∈ tokens, token.IsProper
  apart : tokens.IsChain Token.Apart
  tells : Tells false (tokens.flatMap Token.lexemes) pattern

/-! ## Lexemes -/

variable {quoted : Bool} {lexemes : List Lexeme} {pattern : List Char} {tokens : List Token}

theorem map_cons_eq_ok_iff {lexeme : Lexeme} {read : Except PatternError (List Lexeme)} :
    read.map (lexeme :: ·) = .ok lexemes ↔ ∃ later, lexemes = lexeme :: later ∧ read = .ok later := by
  cases read with
  | error e => simp [Except.map]
  | ok later => simp [Except.map, eq_comm]

/-- The lexemes of a pattern are those that it tells. -/
theorem lexemesFrom_eq_ok_iff : lexemesFrom quoted pattern = .ok lexemes ↔
    Tells quoted lexemes pattern := by
  induction quoted, pattern using lexemesFrom.induct generalizing lexemes with
  | case1 =>
    constructor
    · exact fun h => absurd h (by simp [lexemesFrom])
    · rintro ⟨⟩
  | case2 quoted hquoted =>
    obtain rfl : quoted = false := by simpa using hquoted
    constructor
    · intro h
      obtain rfl : [] = lexemes := by simpa [lexemesFrom] using h
      exact .done
    · rintro ⟨⟩
      rfl
  | case3 quoted rest ih =>
    rw [lexemesFrom, map_cons_eq_ok_iff]
    simp only [ih]
    constructor
    · rintro ⟨later, rfl, h⟩
      exact .quote h
    · intro h
      cases h with
      | quote h => exact ⟨_, rfl, h⟩
      | toggle hnext _ => exact absurd rfl hnext
      | letter hletter _ => exact absurd hletter (by decide)
      | plain hne => exact absurd rfl hne
      | quoted hne => exact absurd rfl hne
  | case4 quoted rest hrest ih =>
    rw [lexemesFrom, ih]
    · constructor
      · refine .toggle fun hnext => ?_
        obtain ⟨later, rfl⟩ := List.head?_eq_some_iff.mp hnext
        exact hrest later rfl
      · intro h
        cases h with
        | quote _ => exact absurd rfl (hrest _)
        | toggle _ h => exact h
        | letter hletter _ => exact absurd hletter (by decide)
        | plain hne => exact absurd rfl hne
        | quoted hne => exact absurd rfl hne
    · exact hrest
  | case5 quoted c rest hquote hne ih =>
    rw [lexemesFrom, map_cons_eq_ok_iff]
    · simp only [ih]
      constructor
      · rintro ⟨later, rfl, h⟩
        cases quoted with
        | true => exact .quoted hne h
        | false =>
          cases hletter : Text.isAsciiLetter c with
          | true => exact .letter hletter h
          | false => exact .plain hne hletter h
      · intro h
        cases h with
        | quote _ => exact absurd rfl hne
        | toggle _ _ => exact absurd rfl hne
        | letter hletter h => exact ⟨_, by simp [hletter], h⟩
        | plain _ hletter h => exact ⟨_, by simp [hletter], h⟩
        | quoted _ h => exact ⟨_, rfl, h⟩
    · exact fun _ h _ => hne h
    · exact hne

/-! ## Tokens -/

/-- The lexemes of a token are joined to it in front of a token that stands apart. -/
theorem foldr_cons_lexemes {token : Token} (hproper : token.IsProper)
    (hapart : ∀ next ∈ tokens.head?, token.Apart next) :
    token.lexemes.foldr Lexeme.cons tokens = token :: tokens := by
  cases token with
  | letters letter count =>
    obtain ⟨count, rfl⟩ : ∃ k, count = k + 1 := ⟨count - 1, (Nat.sub_add_cancel hproper).symm⟩
    clear hproper
    induction count with
    | zero =>
      change Lexeme.cons (.letter letter) tokens = _
      rcases tokens with _ | ⟨_ | _, tokens⟩
      · rfl
      · exact if_neg fun h => hapart _ rfl (congrArg some h)
      · rfl
    | succ count ih =>
      change Lexeme.cons (.letter letter) ((Token.letters letter (count + 1)).lexemes.foldr _ _) = _
      rw [ih hapart]
      exact if_pos rfl
  | literal text =>
    induction text with
    | nil => exact absurd rfl hproper
    | cons c text ih =>
      change Lexeme.cons (.char c) ((Token.literal text).lexemes.foldr _ _) = _
      cases text with
      | nil =>
        rcases tokens with _ | ⟨_ | other, tokens⟩
        · rfl
        · rfl
        · exact absurd rfl (hapart (.literal other) rfl)
      | cons d text =>
        rw [ih (List.cons_ne_nil d text) hapart]
        rfl

/-- A lexeme in front of tokens that stand apart. -/
theorem Lexeme.cons_spec (lexeme : Lexeme) (hproper : ∀ token ∈ tokens, token.IsProper)
    (hapart : tokens.IsChain Token.Apart) :
    (∀ token ∈ lexeme.cons tokens, token.IsProper) ∧ (lexeme.cons tokens).IsChain Token.Apart ∧
      (lexeme.cons tokens).flatMap Token.lexemes = lexeme :: tokens.flatMap Token.lexemes := by
  cases tokens with
  | nil => cases lexeme <;> simp [Lexeme.cons, Token.IsProper, Token.lexemes]
  | cons token tokens =>
    obtain ⟨_, hlater⟩ := List.forall_mem_cons.mp hproper
    have happ := List.isChain_cons.mp hapart
    rcases token with ⟨d, count⟩ | text <;> rcases lexeme with c | c
    · by_cases hcd : c = d
      · subst hcd
        rw [Lexeme.cons, if_pos rfl, List.forall_mem_cons, List.isChain_cons]
        exact ⟨⟨Nat.succ_pos _, hlater⟩, happ, rfl⟩
      · rw [Lexeme.cons, if_neg hcd, List.forall_mem_cons, List.isChain_cons]
        exact ⟨⟨Nat.one_pos, hproper⟩, ⟨by simpa [Token.Apart, Token.letter?] using hcd, hapart⟩, rfl⟩
    · rw [Lexeme.cons, List.forall_mem_cons, List.isChain_cons]
      · exact ⟨⟨List.cons_ne_nil _ _, hproper⟩, ⟨by simp [Token.Apart, Token.letter?], hapart⟩, rfl⟩
      · simp
    · rw [Lexeme.cons, List.forall_mem_cons, List.isChain_cons]
      · exact ⟨⟨Nat.one_pos, hproper⟩, ⟨by simp [Token.Apart, Token.letter?], hapart⟩, rfl⟩
      · simp
    · rw [Lexeme.cons, List.forall_mem_cons, List.isChain_cons]
      exact ⟨⟨List.cons_ne_nil _ _, hlater⟩, happ, rfl⟩

/-- Tokens that are joined from lexemes. -/
theorem foldr_cons_iff : lexemes.foldr Lexeme.cons [] = tokens ↔
    (∀ token ∈ tokens, token.IsProper) ∧ tokens.IsChain Token.Apart ∧
      tokens.flatMap Token.lexemes = lexemes := by
  constructor
  · rintro rfl
    induction lexemes with
    | nil => simp
    | cons lexeme lexemes ih =>
      obtain ⟨hproper, hapart, hlexemes⟩ := ih
      have h := lexeme.cons_spec hproper hapart
      rw [hlexemes] at h
      exact h
  · rintro ⟨hproper, hapart, rfl⟩
    induction tokens with
    | nil => rfl
    | cons token tokens ih =>
      obtain ⟨htoken, hproper⟩ := List.forall_mem_cons.mp hproper
      rw [List.isChain_cons] at hapart
      rw [List.flatMap_cons, List.foldr_append, ih hproper hapart.2]
      exact foldr_cons_lexemes htoken hapart.1

/-- **The tokens of a pattern are those that it spells.** -/
theorem tokenize_eq_ok_iff : tokenize pattern = .ok tokens ↔ Spells tokens pattern := by
  have hmap : tokenize pattern = .ok tokens ↔
      ∃ lexemes, lexemesFrom false pattern = .ok lexemes ∧ lexemes.foldr Lexeme.cons [] = tokens := by
    unfold tokenize
    cases lexemesFrom false pattern <;> simp [Except.map]
  rw [hmap]
  simp only [lexemesFrom_eq_ok_iff, foldr_cons_iff]
  constructor
  · rintro ⟨_, htells, hproper, hapart, rfl⟩
    exact ⟨hproper, hapart, htells⟩
  · rintro ⟨hproper, hapart, htells⟩
    exact ⟨_, htells, hproper, hapart, rfl⟩

end LogIntake.Timestamp
