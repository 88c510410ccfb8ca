import LogIntake.Proofs.Timestamp.Pattern
import Mathlib.Algebra.Ring.Parity
import Mathlib.Data.List.TakeWhile

/-!
# Patterns written and read

* `FormPattern`: tokens of which a pattern can consist.
* `tells_quoteLetters`: the written form of a fixed text tells its characters, in front of anything that
  does not begin with a quote; `FormPattern.tells_render`: so does the one of a whole pattern.
* `lexemesFrom_eq_error_iff`: a pattern is refused exactly if a quote has no partner.
* **`tokenize_render_iff`**: tokens that are written are read again, and what is read are such tokens.
-/

namespace LogIntake.Timestamp

/-- Tokens of which a pattern can consist: runs of one English letter or more, and fixed texts that are
not empty, no two of which belong together. -/
structure FormPattern (tokens : List Token) : Prop where
  letters : ∀ token ∈ tokens, ∀ letter ∈ token.letter?, Text.isAsciiLetter letter = true
  proper : ∀ token ∈ tokens, token.IsProper
  apart : tokens.IsChain Token.Apart

variable {quoted : Bool} {c : Char} {text rest pattern : List Char} {lexemes : List Lexeme}
  {tokens : List Token}

/-! ## Written texts -/

theorem doubleQuotes_cons (c : Char) (text : List Char) :
    doubleQuotes (c :: text) = (if c = '\'' then ['\'', '\''] else [c]) ++ doubleQuotes text :=
  List.flatMap_cons

/-- With its quotes doubled a text stands for itself, in quotes or without letters. -/
theorem tells_doubleQuotes (hplain : quoted = true ∨ ∀ c ∈ text, Text.isAsciiLetter c = false)
    (h : Tells quoted lexemes rest) :
    Tells quoted (text.map .char ++ lexemes) (doubleQuotes text ++ rest) := by
  induction text with
  | nil => exact h
  | cons c text ih =>
    have ih := ih (hplain.imp_right fun hfree d hd => hfree d (.tail _ hd))
    rw [doubleQuotes_cons]
    by_cases hc : c = '\''
    · subst hc
      exact .quote ih
    · rw [if_neg hc]
      cases quoted with
      | true => exact .quoted hc ih
      | false => exact .plain hc (hplain.resolve_left Bool.false_ne_true c (.head _)) ih

/-- A closing quote may have doubled quotes after it: of several in a row the last one closes. -/
theorem tells_closed (hfree : ∀ c ∈ text, Text.isAsciiLetter c = false)
    (hrest : rest.head? ≠ some '\'') (h : Tells false lexemes rest) :
    Tells true (text.map .char ++ lexemes) ('\'' :: (doubleQuotes text ++ rest)) := by
  induction text with
  | nil => exact .toggle hrest h
  | cons c text ih =>
    obtain ⟨hc, hlater⟩ := List.forall_mem_cons.mp hfree
    rw [doubleQuotes_cons]
    by_cases hquote : c = '\''
    · subst hquote
      exact .quote (ih hlater)
    · rw [if_neg hquote]
      exact .toggle (by simpa using hquote)
        (.plain hquote hc (tells_doubleQuotes (.inr hlater) h))

/-- A text without letters is written without quotes around it; otherwise they enclose what lies between
the first letter and the last one. -/
theorem quoteLetters_cases (text : List Char) :
    ((∀ c ∈ text, Text.isAsciiLetter c = false) ∧ quoteLetters text = doubleQuotes text) ∨
      ∃ front c middle back, text = front ++ (c :: middle ++ back) ∧ Text.isAsciiLetter c = true ∧
        (∀ d ∈ front, Text.isAsciiLetter d = false) ∧ (∀ d ∈ back, Text.isAsciiLetter d = false) ∧
        quoteLetters text =
          doubleQuotes front ++ '\'' :: doubleQuotes (c :: middle) ++ '\'' :: doubleQuotes back := by
  have htext := List.takeWhile_append_dropWhile (p := fun c => !Text.isAsciiLetter c) (l := text)
  have hfront : ∀ d ∈ text.takeWhile fun c => !Text.isAsciiLetter c, Text.isAsciiLetter d = false :=
    fun d hd => by simpa using List.mem_takeWhile_imp hd
  unfold quoteLetters
  dsimp only
  generalize hstretch : (text.dropWhile fun c => !Text.isAsciiLetter c) = stretch at *
  have hparts := List.takeWhile_append_dropWhile (p := fun c => !Text.isAsciiLetter c)
    (l := stretch.reverse)
  rw [← List.reverse_inj, List.reverse_append, List.reverse_reverse] at hparts
  have hback : ∀ d ∈ (stretch.reverse.takeWhile fun c => !Text.isAsciiLetter c).reverse,
      Text.isAsciiLetter d = false :=
    fun d hd => by simpa using List.mem_takeWhile_imp (List.mem_reverse.mp hd)
  cases hmiddle : (stretch.reverse.dropWhile fun c => !Text.isAsciiLetter c).reverse with
  | nil =>
    rw [hmiddle, List.nil_append] at hparts
    refine .inl ⟨fun d hd => ?_, rfl⟩
    rw [← htext, ← hparts] at hd
    exact (List.mem_append.mp hd).elim (hfront d) (hback d)
  | cons c middle =>
    rw [hmiddle] at hparts
    have hc : Text.isAsciiLetter c = true := by
      have hhead := List.head?_dropWhile_not (fun c => !Text.isAsciiLetter c) text
      rw [hstretch, ← hparts] at hhead
      simpa using hhead
    refine .inr ⟨_, c, middle, _, ?_, hc, hfront, hback, rfl⟩
    rw [hparts, htext]

/-- The written form of a fixed text tells its characters, in front of anything but a quote. -/
theorem tells_quoteLetters (hrest : rest.head? ≠ some '\'') (h : Tells false lexemes rest) :
    Tells false (text.map .char ++ lexemes) (quoteLetters text ++ rest) := by
  rcases quoteLetters_cases text with ⟨hfree, hquoted⟩ |
    ⟨front, c, middle, back, htext, hc, hfront, hback, hquoted⟩
  · rw [hquoted]
    exact tells_doubleQuotes (.inr hfree) h
  · have hne : c ≠ '\'' := ne_of_apply_ne Text.isAsciiLetter (by rw [hc]; decide)
    have hopen : (doubleQuotes (c :: middle) ++ '\'' :: (doubleQuotes back ++ rest)).head? ≠
        some '\'' := by
      simp [doubleQuotes_cons, hne]
    have hmiddle : Tells (!false) ((c :: middle).map .char ++ _) (doubleQuotes (c :: middle) ++ _) :=
      tells_doubleQuotes (.inl rfl) (tells_closed hback hrest h)
    have hall := tells_doubleQuotes (.inr hfront) (.toggle hopen hmiddle)
    rw [hquoted, htext]
    simpa only [List.map_append, List.map_cons, List.append_assoc, List.cons_append] using hall

theorem tells_letters (hc : Text.isAsciiLetter c = true) (count : Nat) (h : Tells false lexemes rest) :
    Tells false (List.replicate count (.letter c) ++ lexemes) (List.replicate count c ++ rest) := by
  induction count with
  | zero => exact h
  | succ count ih => exact .letter hc ih

/-! ## Written patterns -/

theorem FormPattern.tail {token : Token} (h : FormPattern (token :: tokens)) : FormPattern tokens where
  letters := (List.forall_mem_cons.mp h.letters).2
  proper := (List.forall_mem_cons.mp h.proper).2
  apart := (List.isChain_cons.mp h.apart).2

/-- What is written behind a fixed text does not begin with a quote. -/
theorem FormPattern.head?_render_ne (h : FormPattern (.literal text :: tokens)) :
    (render tokens).head? ≠ some '\'' := by
  cases tokens with
  | nil => exact nofun
  | cons next tokens =>
    have hapart : (Token.literal text).Apart next := (List.isChain_cons.mp h.apart).1 next rfl
    cases next with
    | literal other => exact absurd rfl hapart
    | letters letter count =>
      have hletter : Text.isAsciiLetter letter = true :=
        h.letters _ (.tail _ (.head _)) letter rfl
      have hcount : 0 < count := h.proper _ (.tail _ (.head _))
      obtain ⟨count, rfl⟩ : ∃ k, count = k + 1 := ⟨count - 1, (Nat.sub_add_cancel hcount).symm⟩
      intro hquote
      obtain rfl : letter = '\'' := Option.some.inj hquote
      exact absurd hletter (by decide)

/-- The written form of a pattern tells the lexemes of its tokens. -/
theorem FormPattern.tells_render (h : FormPattern tokens) :
    Tells false (tokens.flatMap Token.lexemes) (render tokens) := by
  induction tokens with
  | nil => exact .done
  | cons token tokens ih =>
    rw [List.flatMap_cons]
    cases token with
    | letters letter count => exact tells_letters (h.letters _ (.head _) letter rfl) count (ih h.tail)
    | literal text => exact tells_quoteLetters h.head?_render_ne (ih h.tail)

theorem Tells.isAsciiLetter (h : Tells quoted lexemes pattern) (hc : .letter c ∈ lexemes) :
    Text.isAsciiLetter c = true := by
  induction h with
  | done => exact absurd hc List.not_mem_nil
  | toggle _ _ ih => exact ih hc
  | letter hletter _ ih =>
    rcases List.mem_cons.mp hc with heq | hc
    · rwa [Lexeme.letter.inj heq]
    · exact ih hc
  | quote _ ih | plain _ _ _ ih | quoted _ _ ih => exact ih (by simpa using hc)

/-- The tokens of a pattern are such that a pattern can consist of them. -/
theorem Spells.formPattern (h : Spells tokens pattern) : FormPattern tokens where
  letters := by
    rintro (⟨letter, count⟩ | text) htoken c hc
    · obtain rfl : letter = c := Option.some.inj hc
      have hcount : 0 < count := h.proper _ htoken
      refine h.tells.isAsciiLetter (List.mem_flatMap.mpr ⟨_, htoken, ?_⟩)
      exact List.mem_replicate.mpr ⟨Nat.ne_of_gt hcount, rfl⟩
    · exact absurd hc nofun
  proper := h.proper
  apart := h.apart

/-! ## Quotes -/

variable {e : PatternError}

theorem map_cons_eq_error_iff {lexeme : Lexeme} {read : Except PatternError (List Lexeme)} :
    read.map (lexeme :: ·) = .error e ↔ read = .error e := by
  cases read <;> simp [Except.map]

/-- A pattern is refused exactly if a quote has no partner, and for no other reason. -/
theorem lexemesFrom_eq_error_iff : lexemesFrom quoted pattern = .error e ↔
    e = .unterminatedQuote ∧ Odd (pattern.count '\'' + quoted.toNat) := by
  induction quoted, pattern using lexemesFrom.induct with
  | case1 => simp [lexemesFrom, eq_comm]
  | case2 quoted hquoted =>
    obtain rfl : quoted = false := by simpa using hquoted
    simp [lexemesFrom]
  | case3 quoted rest ih =>
    rw [lexemesFrom, map_cons_eq_error_iff, ih, List.count_cons_self, List.count_cons_self]
    refine and_congr_right fun _ => ?_
    rw [Nat.odd_iff, Nat.odd_iff]
    omega
  | case4 quoted rest hrest ih =>
    rw [lexemesFrom.eq_3 quoted rest hrest, ih, List.count_cons_self]
    cases quoted <;> simp [Nat.odd_add, parity_simps]
  | case5 quoted c rest hquote hne ih =>
    rw [lexemesFrom, map_cons_eq_error_iff, ih, List.count_cons_of_ne hne]
    · exact fun _ h _ => hne h
    · exact hne

theorem tokenize_eq_error_iff : tokenize pattern = .error e ↔
    e = .unterminatedQuote ∧ Odd (pattern.count '\'') := by
  have h : lexemesFrom false pattern = .error e ↔ _ := lexemesFrom_eq_error_iff
  rw [Bool.toNat_false, Nat.add_zero] at h
  rw [← h, tokenize]
  cases lexemesFrom false pattern <;> simp [Except.map]

/-- **Tokens of which a pattern can consist are read again when they are written, and no others. A pattern
gives such tokens exactly if the number of its quotes is even; if it is odd, a quote has no end.** -/
theorem tokenize_render_iff (tokens : List Token) (pattern : List Char) :
    (tokenize (render tokens) = .ok tokens ↔ FormPattern tokens) ∧
      ((∃ tokens, tokenize pattern = .ok tokens ∧ FormPattern tokens) ↔ Even (pattern.count '\'')) ∧
      (tokenize pattern = .error .unterminatedQuote ↔ Odd (pattern.count '\'')) := by
  refine ⟨⟨fun h => (tokenize_eq_ok_iff.mp h).formPattern,
    fun h => tokenize_eq_ok_iff.mpr ⟨h.proper, h.apart, h.tells_render⟩⟩, ⟨?_, fun heven => ?_⟩,
    tokenize_eq_error_iff.trans (and_iff_right rfl)⟩
  · rintro ⟨tokens, hread, -⟩
    rw [← Nat.not_odd_iff_even]
    intro hodd
    rw [tokenize_eq_error_iff.mpr ⟨rfl, hodd⟩] at hread
    cases hread
  · cases hread : tokenize pattern with
    | error e => exact absurd heven (Nat.not_even_iff_odd.mpr (tokenize_eq_error_iff.mp hread).2)
    | ok tokens => exact ⟨tokens, rfl, (tokenize_eq_ok_iff.mp hread).formPattern⟩

end LogIntake.Timestamp
