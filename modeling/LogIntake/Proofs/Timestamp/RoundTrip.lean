import LogIntake.Proofs.Timestamp.Pattern
import LogIntake.Proofs.Timestamp.Reading

/-!
# Written timestamps are parsed

* `IsComplete`: the runs of a pattern show every part of a date-time once.
* `Suffices`, `told_dateTime`: parts that determine a date-time.
* `IsWritable.instant?_eq`: the instant of a date-time with a year of four digits can be told.
* `Format.parse_of_trim_eq`: a written date-time is parsed, whatever white space stands around it.
* **`compile_parse_write`**: a pattern that shows every part of a date-time is understood, and what is
  written along it is parsed to the instant in milliseconds.
-/

namespace LogIntake.Timestamp

open Calendar Text

/-- The letters of the runs among tokens. -/
def letters (tokens : List Token) : List Char :=
  tokens.filterMap Token.letter?

/-- The runs show every part of a date-time once, and perhaps the day of the week: the hour either as
it is, or with the half of the day. -/
def IsComplete (tokens : List Token) : Prop :=
  ∃ hour ∈ [['H'], ['h', 'a']], ∃ weekday ∈ [[], ['E']],
    (letters tokens).Perm (['y', 'M', 'd', 'm', 's', 'S'] ++ hour ++ weekday)

variable {tokens : List Token} {t : DateTime} {ds : List Directive} {letter c : Char} {count : Nat}

/-! ## The letters of a complete pattern -/

theorem mem_letters_iff : letter ∈ letters tokens ↔ ∃ count, Token.letters letter count ∈ tokens := by
  rw [letters, List.mem_filterMap]
  constructor
  · rintro ⟨token, hmem, h⟩
    cases token with
    | letters other count =>
      obtain rfl : other = letter := by simpa [Token.letter?] using h
      exact ⟨count, hmem⟩
    | literal text => exact absurd h (by simp [Token.letter?])
  · rintro ⟨count, hmem⟩
    exact ⟨_, hmem, rfl⟩

theorem hasLetter_iff {among : List Char} :
    hasLetter among tokens = true ↔ ∃ letter ∈ among, letter ∈ letters tokens := by
  simp only [mem_letters_iff, hasLetter, List.any_eq_true]
  constructor
  · rintro ⟨token, hmem, h⟩
    cases token with
    | letters letter count => exact ⟨letter, by simpa using h, count, hmem⟩
    | literal text => exact absurd h (by simp)
  · rintro ⟨letter, hamong, count, hmem⟩
    exact ⟨_, hmem, by simpa using hamong⟩

/-- Where no letter occurs twice, a run is known from its letter. -/
theorem eq_of_letter?_eq (h : (letters tokens).Nodup) {a b : Token} (ha : a ∈ tokens) (hb : b ∈ tokens)
    (hletter : a.letter? = some letter) (hsame : b.letter? = some letter) : a = b := by
  induction tokens with
  | nil => exact absurd ha List.not_mem_nil
  | cons token tokens ih =>
    have hmem : ∀ other ∈ tokens, other.letter? = some letter → letter ∈ letters tokens :=
      fun other hother h => List.mem_filterMap.mpr ⟨other, hother, h⟩
    have htail : (letters tokens).Nodup := by
      unfold letters at h ⊢
      rw [List.filterMap_cons] at h
      split at h
      · exact h
      · exact (List.nodup_cons.mp h).2
    have hfirst : token.letter? = some letter → letter ∉ letters tokens := fun htoken => by
      rw [letters, List.filterMap_cons_some htoken] at h
      exact (List.nodup_cons.mp h).1
    rcases List.mem_cons.mp ha with rfl | ha' <;> rcases List.mem_cons.mp hb with rfl | hb'
    · rfl
    · exact absurd (hmem b hb' hsame) (hfirst hletter)
    · exact absurd (hmem a ha' hletter) (hfirst hsame)
    · exact ih htail ha' hb'

namespace IsComplete

theorem mem_writtenLetters (h : IsComplete tokens) (hletter : letter ∈ letters tokens) :
    letter ∈ writtenLetters := by
  obtain ⟨hour, hhour, weekday, hweekday, hperm⟩ := h
  rw [hperm.mem_iff] at hletter
  simp only [List.mem_cons, List.not_mem_nil, or_false] at hhour hweekday
  rcases hhour with rfl | rfl <;> rcases hweekday with rfl | rfl <;>
    simp [writtenLetters] at hletter ⊢ <;> tauto

theorem nodup (h : IsComplete tokens) : (letters tokens).Nodup := by
  obtain ⟨hour, hhour, weekday, hweekday, hperm⟩ := h
  rw [hperm.nodup_iff]
  simp only [List.mem_cons, List.not_mem_nil, or_false] at hhour hweekday
  rcases hhour with rfl | rfl <;> rcases hweekday with rfl | rfl <;> decide

theorem mem_letters (h : IsComplete tokens) (letter : Char) (hletter : letter ∈ ['y', 'M', 'd', 'm', 's', 'S']) :
    letter ∈ letters tokens := by
  obtain ⟨hour, hhour, weekday, hweekday, hperm⟩ := h
  rw [hperm.mem_iff]
  exact List.mem_append_left _ (List.mem_append_left _ hletter)

theorem hour_mem (h : IsComplete tokens) :
    'H' ∈ letters tokens ∨ 'h' ∈ letters tokens ∧ 'a' ∈ letters tokens := by
  obtain ⟨hour, hhour, weekday, hweekday, hperm⟩ := h
  simp only [hperm.mem_iff]
  simp only [List.mem_cons, List.not_mem_nil, or_false] at hhour
  rcases hhour with rfl | rfl
  · exact .inl (by simp)
  · exact .inr ⟨by simp, by simp⟩

/-- An hour of the half day stands beside the half. -/
theorem marks_half (h : IsComplete tokens) (hletter : 'h' ∈ letters tokens) :
    hasLetter ['a'] tokens = true := by
  rw [hasLetter_iff]
  refine ⟨'a', List.mem_cons_self, ?_⟩
  obtain ⟨hour, hhour, weekday, hweekday, hperm⟩ := h
  rw [hperm.mem_iff] at hletter ⊢
  simp only [List.mem_cons, List.not_mem_nil, or_false] at hhour hweekday
  rcases hhour with rfl | rfl <;> rcases hweekday with rfl | rfl <;> simp at hletter ⊢

theorem not_hasLetter (h : IsComplete tokens) {among : List Char}
    (hamong : ∀ letter ∈ among, letter ∉ writtenLetters) : hasLetter among tokens = false := by
  rw [Bool.eq_false_iff]
  intro hhas
  obtain ⟨letter, hmem, hletter⟩ := hasLetter_iff.mp hhas
  exact hamong letter hmem (h.mem_writtenLetters hletter)

end IsComplete

/-! ## What determines a date-time -/

/-- Directives that tell all parts of a date-time. -/
structure Suffices (t : DateTime) (ds : List Directive) : Prop where
  year : .year ∈ ds ∨ .yearOfCentury ∈ ds ∧ 1970 ≤ t.date.year ∧ t.date.year ≤ 2069
  month : ds.any Directive.tellsMonth = true
  day : .day ∈ ds
  half : ds.any Directive.tellsHalf = true
  hourOfHalf : ds.any Directive.tellsHourOfHalf = true
  minute : .minute ∈ ds
  second : .second ∈ ds
  fraction : ds.any Directive.tellsFraction = true

theorem told_fullYear (hnonneg : 0 ≤ t.date.year) (h : .year ∈ ds ∨ .yearOfCentury ∈ ds ∧
    1970 ≤ t.date.year ∧ t.date.year ≤ 2069) : (told t ds).fullYear = .ok (some t.date.year) := by
  by_cases hyear : .year ∈ ds
  · by_cases hshort : .yearOfCentury ∈ ds
    · have hmod : t.date.year % 100 = (t.date.year.toNat % 100 : Nat) := by omega
      have hagree : (decide (0 ≤ t.date.year) &&
          t.date.year % 100 == (t.date.year.toNat % 100 : Nat)) = true := by
        rw [Bool.and_eq_true, decide_eq_true_eq, beq_iff_eq]
        exact ⟨hnonneg, hmod⟩
      simp only [told, Reading.fullYear, if_pos hyear, if_pos hshort, if_pos hagree]
    · simp only [told, Reading.fullYear, if_pos hyear, if_neg hshort]
  · obtain ⟨hshort, hfirst, hlast⟩ := h.resolve_left hyear
    have hcentury : (if t.date.year.toNat % 100 < 70 then 2000 + ((t.date.year.toNat % 100 : Nat) : Int)
        else 1900 + ((t.date.year.toNat % 100 : Nat) : Int)) = t.date.year := by
      split <;> omega
    simp only [told, Reading.fullYear, if_neg hyear, if_pos hshort, hcentury]

theorem told_date (h : IsWritable t) (hs : Suffices t ds) : (told t ds).date = .ok t.date := by
  have hweekday : ((told t ds).weekday.any (· != t.date.weekday)) = false := by
    unfold told
    dsimp only
    split <;> simp
  have hmonth : (told t ds).month = some t.date.month := if_pos hs.month
  have hday : (told t ds).day = some t.date.day := if_pos hs.day
  simp only [Reading.date, told_fullYear h.year_nonneg hs.year, ok_bind, hmonth, hday, h.civil.date,
    hweekday]
  rfl

/-- Parts that suffice determine the date-time. -/
theorem told_dateTime (h : IsWritable t) (hs : Suffices t ds) : (told t ds).dateTime = .ok t := by
  have hhour : t.hour / 12 * 12 + t.hour % 12 = t.hour := Nat.div_add_mod' t.hour 12
  have hsecond : t.second ≠ 60 := Nat.ne_of_lt h.civil.second
  rw [Reading.dateTime, told_date h hs, ok_bind]
  simp only [told, Reading.time, if_pos hs.half, if_pos hs.hourOfHalf, if_pos hs.minute,
    if_pos hs.second, if_pos hs.fraction, Option.getD_some, if_neg hsecond, hhour]

/-- The seconds of the years 0 to 9999. -/
theorem IsWritable.seconds_bounds (h : IsWritable t) :
    -62167219200 ≤ t.seconds ∧ t.seconds < 253402300800 := by
  have hdate := h.civil.exists_date.bounds
  have hleast := daysBeforeYear_mono h.year_nonneg
  have hmost := daysBeforeYear_mono (Int.add_le_add_right h.year_le 1)
  rw [show daysBeforeYear 0 = -366 by decide] at hleast
  rw [show daysBeforeYear (9999 + 1) = 3652059 by decide] at hmost
  have hhour := h.civil.hour
  have hminute := h.civil.minute
  have hsecond := h.civil.second
  unfold epochDay at hdate
  unfold DateTime.seconds
  omega

/-- The instant of a date-time with a year of four digits can be told, whatever its offset. -/
theorem IsWritable.instant?_eq (h : IsWritable t) {offset : Int} (hoffset : isOffset offset = true) :
    Format.instant? t offset = some ((t.seconds - offset) * 1000 + t.nanosecond / 1000000) := by
  have hbounds := h.seconds_bounds
  have hrange : firstMillis ≤ (t.seconds - offset) * 1000 ∧
      (t.seconds - offset) * 1000 ≤ lastMillis := by
    simp only [isOffset, decide_eq_true_eq] at hoffset
    unfold firstMillis lastMillis
    omega
  simp [Format.instant?, hrange]

/-! ## Shortened fractions -/

theorem shorten_dvd (digits : Nat) (t : DateTime) :
    10 ^ (9 - digits) ∣ (shorten digits t).nanosecond :=
  Nat.dvd_mul_left _ _

theorem IsWritable.shortened (h : IsWritable t) (digits : Nat) : IsWritable (shorten digits t) :=
  ⟨⟨h.civil.date, h.civil.hour, h.civil.minute, h.civil.second,
    Nat.lt_of_le_of_lt (Nat.div_mul_le_self _ _) h.civil.nanosecond⟩, h.year_nonneg, h.year_le⟩

/-- Digits of a fraction that are not written do not matter. -/
theorem IsWritable.writeLetters_shorten (h : IsWritable t) (count : Nat) (letter : Char)
    {digits : Nat} (hdigits : letter = 'S' → digits = fractionDigits count) :
    writeLetters (shorten digits t) count letter = writeLetters t count letter := by
  by_cases hletter : letter = 'S'
  · obtain rfl := hdigits hletter
    subst hletter
    obtain ⟨hpos, hle⟩ := fractionDigits_bounds count
    have hnumeral : ∀ u : DateTime, IsWritable u → IsNumeral (fractionDigits count)
        ((paddedDigits 9 u.nanosecond).take (fractionDigits count)) := fun u hu =>
      (isNumeral_paddedDigits (by decide) hu.civil.nanosecond).take hle
    change ((paddedDigits 9 _).take _) = ((paddedDigits 9 _).take _)
    refine (hnumeral _ (h.shortened _)).eq_of_value_eq (hnumeral t h) ?_
    rw [digitsValue_take_paddedDigits (by decide) (h.shortened _).civil.nanosecond,
      digitsValue_take_paddedDigits (by decide) h.civil.nanosecond]
    exact Nat.mul_div_cancel _ (Nat.pow_pos (by decide))
  · unfold writeLetters
    split <;> first | rfl | exact absurd rfl hletter

theorem IsWritable.write_shorten (h : IsWritable t) (hcount : ∀ other, .letters 'S' other ∈ tokens →
    other = count) : write (shorten (fractionDigits count) t) tokens = write t tokens := by
  unfold write
  refine List.flatMap_congr fun token htoken => ?_
  cases token with
  | letters letter other =>
    refine h.writeLetters_shorten other letter ?_
    rintro rfl
    rw [hcount other htoken]
  | literal text => rfl

/-- The milliseconds are always written. -/
theorem shorten_millis (count : Nat) (t : DateTime) :
    (shorten (fractionDigits count) t).nanosecond / 1000000 = t.nanosecond / 1000000 := by
  unfold fractionDigits shorten
  repeat' split
  all_goals
    simp only [Nat.reduceSub, Nat.reducePow]
    omega

/-! ## Compiling -/

/-- A letter that is told stands in the pattern. -/
theorem Tells.mem {quoted : Bool} {lexemes : List Lexeme} {pattern : List Char}
    (h : Tells quoted lexemes pattern) (hc : .letter c ∈ lexemes) : c ∈ pattern := by
  induction h with
  | done => exact absurd hc List.not_mem_nil
  | quote _ ih => exact .tail _ (.tail _ (ih (by simpa using hc)))
  | toggle _ _ ih => exact .tail _ (ih hc)
  | letter _ _ ih =>
    rcases List.mem_cons.mp hc with heq | hc
    · obtain rfl := Lexeme.letter.inj heq
      exact List.mem_cons_self
    · exact .tail _ (ih hc)
  | plain _ _ _ ih => exact .tail _ (ih (by simpa using hc))
  | quoted _ _ ih => exact .tail _ (ih (by simpa using hc))

theorem Spells.mem {pattern : List Char} (h : Spells tokens pattern) (hc : c ∈ letters tokens) :
    c ∈ pattern := by
  obtain ⟨count, hmem⟩ := mem_letters_iff.mp hc
  have hpos : 0 < count := h.proper _ hmem
  refine h.tells.mem (List.mem_flatMap.mpr ⟨_, hmem, ?_⟩)
  exact List.mem_replicate.mpr ⟨Nat.ne_of_gt hpos, rfl⟩

/-- A pattern with a day is not blank, so it is understood if all its letters are. -/
theorem Spells.compile_eq_ok {pattern : String} (h : Spells tokens pattern.toList)
    (hday : 'd' ∈ letters tokens) {steps : List (List Step)}
    (hsteps : tokens.mapM (Token.steps (hasLetter ['a'] tokens)) = .ok steps) :
    Format.compile pattern = .ok ⟨pattern, tokens, steps.flatten⟩ := by
  have hblank : ¬ isAllBlank pattern.toList = true := by
    rw [isAllBlank, List.all_eq_true]
    intro hall
    exact absurd (hall 'd' (h.mem hday)) (by decide)
  simp only [Format.compile, if_neg hblank, tokenize_eq_ok_iff.mpr h, hsteps, bind, Except.bind, pure,
    Except.pure]

/-- The directives of a complete pattern. -/
def directives (tokens : List Token) : List Directive :=
  tokens.filterMap (Token.directive? (hasLetter ['a'] tokens))

theorem mem_directives {d : Directive} (h : .letters letter count ∈ tokens)
    (hd : Directive.ofLetters? (hasLetter ['a'] tokens) letter count = some d) :
    d ∈ directives tokens :=
  List.mem_filterMap.mpr ⟨_, h, hd⟩

namespace IsComplete

/-- The runs of a complete pattern tell all parts of a date-time. -/
theorem suffices_directives (h : IsComplete tokens) (hshort : .letters 'y' 2 ∈ tokens →
    1970 ≤ t.date.year ∧ t.date.year ≤ 2069) (hds : ∀ d ∈ directives tokens, d ∈ ds) :
    Suffices t ds := by
  have hrun : ∀ letter ∈ ['y', 'M', 'd', 'm', 's', 'S'], ∃ count, .letters letter count ∈ tokens :=
    fun letter hletter => mem_letters_iff.mp (h.mem_letters letter hletter)
  have htold : ∀ {letter count d}, .letters letter count ∈ tokens →
      Directive.ofLetters? (hasLetter ['a'] tokens) letter count = some d → d ∈ ds :=
    fun hmem hd => hds _ (mem_directives hmem hd)
  have hany : ∀ {tells : Directive → Bool} {d}, tells d = true → d ∈ ds → ds.any tells = true :=
    fun htells hd => List.any_eq_true.mpr ⟨_, hd, htells⟩
  have hhour : ds.any Directive.tellsHalf = true ∧ ds.any Directive.tellsHourOfHalf = true := by
    rcases h.hour_mem with hH | ⟨hh, ha⟩
    · obtain ⟨count, hmem⟩ := mem_letters_iff.mp hH
      have hd := htold hmem rfl
      exact ⟨hany rfl hd, hany rfl hd⟩
    · obtain ⟨_, ha'⟩ := mem_letters_iff.mp ha
      obtain ⟨count, hh'⟩ := mem_letters_iff.mp hh
      have hd : .hourOfHalf ∈ ds := htold hh' (by rw [h.marks_half hh]; rfl)
      exact ⟨hany rfl (htold ha' rfl), hany rfl hd⟩
  constructor
  case year =>
    obtain ⟨count, hmem⟩ := hrun 'y' (by decide)
    by_cases htwo : count = 2
    · subst htwo
      exact .inr ⟨htold hmem rfl, hshort hmem⟩
    · exact .inl (htold hmem (by simp [Directive.ofLetters?, htwo]))
  case month =>
    obtain ⟨count, hmem⟩ := hrun 'M' (by decide)
    refine hany ?_ (htold hmem rfl)
    split <;> rfl
  case day =>
    obtain ⟨count, hmem⟩ := hrun 'd' (by decide)
    exact htold hmem rfl
  case half => exact hhour.1
  case hourOfHalf => exact hhour.2
  case minute =>
    obtain ⟨count, hmem⟩ := hrun 'm' (by decide)
    exact htold hmem rfl
  case second =>
    obtain ⟨count, hmem⟩ := hrun 's' (by decide)
    exact htold hmem rfl
  case fraction =>
    obtain ⟨count, hmem⟩ := hrun 'S' (by decide)
    exact hany rfl (htold hmem rfl)

/-- The fraction of a complete pattern: one run of letters. -/
theorem exists_fraction (h : IsComplete tokens) :
    ∃ count, ∀ other, .letters 'S' other ∈ tokens → other = count := by
  obtain ⟨count, hmem⟩ := mem_letters_iff.mp (h.mem_letters 'S' (by decide))
  refine ⟨count, fun other hother => ?_⟩
  exact (Token.letters.inj (eq_of_letter?_eq h.nodup hother hmem rfl rfl)).2

theorem isReadable (h : IsComplete tokens) (hcount : ∀ other, .letters 'S' other ∈ tokens →
    other = count) : ∀ token ∈ tokens,
      token.IsReadable (shorten (fractionDigits count) t) (hasLetter ['a'] tokens) := by
  intro token htoken
  cases token with
  | letters letter other =>
    have hletter : letter ∈ letters tokens := mem_letters_iff.mpr ⟨other, htoken⟩
    refine ⟨h.mem_writtenLetters hletter, ?_, ?_⟩
    · rintro rfl
      exact h.marks_half hletter
    · rintro rfl
      rw [hcount other htoken]
      exact shorten_dvd _ t
  | literal text => trivial

/-- All tokens of a complete pattern have steps. -/
theorem exists_steps (h : IsComplete tokens) :
    ∃ steps, tokens.mapM (Token.steps (hasLetter ['a'] tokens)) = .ok steps := by
  obtain ⟨count, hcount⟩ := h.exists_fraction
  -- the steps do not depend on the date-time, so any will do
  obtain ⟨steps, hsteps, _⟩ := reads_write (IsWritable.epoch.shortened _) tokens (h.isReadable hcount)
  exact ⟨steps, hsteps⟩

/-- A complete pattern is understood. -/
theorem exists_compile (h : IsComplete tokens) {pattern : String}
    (hspells : Spells tokens pattern.toList) :
    ∃ steps, tokens.mapM (Token.steps (hasLetter ['a'] tokens)) = .ok steps ∧
      Format.compile pattern = .ok ⟨pattern, tokens, steps.flatten⟩ := by
  obtain ⟨steps, hsteps⟩ := h.exists_steps
  exact ⟨steps, hsteps, hspells.compile_eq_ok (h.mem_letters 'd' (by decide)) hsteps⟩

variable (pattern : String)

/-- Nothing is known before a text is read along a complete pattern. -/
theorem known_eq (h : IsComplete tokens) (steps : List Step) (year : Int) :
    Format.known ⟨pattern, tokens, steps⟩ year = told t [] := by
  have hyear : hasLetter ['y'] tokens = true :=
    hasLetter_iff.mpr ⟨'y', by decide, h.mem_letters 'y' (by decide)⟩
  have hdate : hasLetter ['y', 'M', 'd'] tokens = true :=
    hasLetter_iff.mpr ⟨'y', by decide, h.mem_letters 'y' (by decide)⟩
  simp [Format.known, Format.hasDate, Format.hasYear, hyear, hdate, told]

/-- The instant of a date-time that is read along a complete pattern. -/
theorem resolve_eq (h : IsComplete tokens) (steps : List Step) {r : Reading} (ht : IsWritable t)
    (hr : r.dateTime = .ok t) :
    Format.resolve ⟨pattern, tokens, steps⟩ .utc r =
      .ok (t.seconds * 1000 + t.nanosecond / 1000000) := by
  have hoffset : hasLetter ['Z', 'X'] tokens = false := h.not_hasLetter (by simp [writtenLetters])
  have htime : hasLetter ['H', 'k', 'h', 'K', 'm', 's', 'S'] tokens = true :=
    hasLetter_iff.mpr ⟨'m', by decide, h.mem_letters 'm' (by decide)⟩
  have hlocal : Zone.utc.offsetOfLocal? t = some 0 := rfl
  simp only [Format.resolve, Format.hasOffset, Format.hasTime, hoffset, htime, hr, ok_bind,
    if_neg Bool.false_ne_true, if_true, hlocal, Option.bind_some, ht.instant?_eq (show isOffset 0 = true from rfl),
    Int.sub_zero]
  rfl

/-- **What is written along a complete pattern is parsed**, whatever white space stands around it. -/
theorem parse_eq (h : IsComplete tokens) {steps : List (List Step)}
    (hsteps : tokens.mapM (Token.steps (hasLetter ['a'] tokens)) = .ok steps) (ht : IsWritable t)
    (hshort : .letters 'y' 2 ∈ tokens → 1970 ≤ t.date.year ∧ t.date.year ≤ 2069)
    {almanac : Almanac} (hzone : almanac.zone = .utc) {text : String}
    (htext : trim text.toList = trim (write t tokens)) :
    Format.parse ⟨pattern, tokens, steps.flatten⟩ almanac text =
      .ok (t.seconds * 1000 + t.nanosecond / 1000000) := by
  obtain ⟨count, hcount⟩ := h.exists_fraction
  have hfits := ht.shortened (fractionDigits count)
  obtain ⟨steps', hsteps', hreads⟩ := reads_write hfits tokens (h.isReadable hcount)
  obtain rfl : steps = steps' := Except.ok.inj (hsteps.symm.trans hsteps')
  have hscan := (hreads []).trimmed
  rw [ht.write_shorten hcount, ← trim_eq_trimStart_trimEnd, ← htext] at hscan
  change _ = Except.ok (told _ ((directives tokens).reverse ++ [])) at hscan
  have hsuffices : Suffices (shorten (fractionDigits count) t)
      ((directives tokens).reverse ++ []) :=
    h.suffices_directives hshort fun d hd => by simpa using hd
  have hresolve := h.resolve_eq pattern steps.flatten hfits (told_dateTime hfits hsuffices)
  have hmillis := shorten_millis count t
  have hinstant : (shorten (fractionDigits count) t).seconds * 1000 +
      ((shorten (fractionDigits count) t).nanosecond : Int) / 1000000 =
        t.seconds * 1000 + (t.nanosecond : Int) / 1000000 := by
    rw [show (shorten (fractionDigits count) t).seconds = t.seconds from rfl]
    omega
  rw [hinstant] at hresolve
  simp only [Format.parse, h.known_eq (t := shorten (fractionDigits count) t) pattern, hscan, hzone,
    hresolve]

end IsComplete

/-- **A pattern that shows every part of a date-time once is understood, and what is written along it
is parsed to the instant in milliseconds**, where the clock shows universal time. A year of two digits
lies from 1970 to 2069. -/
theorem compile_parse_write {pattern : String} {tokens : List Token}
    (hspells : Spells tokens pattern.toList) (hcomplete : IsComplete tokens) :
    ∃ format, Format.compile pattern = .ok format ∧
      ∀ t : DateTime, t.IsCivil → 0 ≤ t.date.year → t.date.year ≤ 9999 →
      (.letters 'y' 2 ∈ tokens → 1970 ≤ t.date.year ∧ t.date.year ≤ 2069) →
      ∀ almanac : Almanac, almanac.zone = .utc →
        format.parse almanac (String.ofList (write t tokens)) =
          .ok (t.seconds * 1000 + t.nanosecond / 1000000) := by
  obtain ⟨steps, hsteps, hcompile⟩ := hcomplete.exists_compile hspells
  refine ⟨_, hcompile, fun t hcivil hfirst hlast hshort almanac hzone => ?_⟩
  exact hcomplete.parse_eq pattern hsteps ⟨hcivil, hfirst, hlast⟩ hshort hzone (by rw [String.toList_ofList])

/-- A time shortly before 1970, with names, the half of the day and fixed texts that hold a quote, a
percent sign and digits. -/
theorem compile_parse_write_beforeEpoch :
    ∃ format, Format.compile "EEEE dMMMMyyyy'%o''20' hhamm:ssSSSS" = .ok format ∧
      format.parse ⟨.utc, 2024⟩ "Wednesday 31December1969%o'20 11PM59:59999999" = .ok (-1) := by
  have hspells : Spells [.letters 'E' 4, .literal [' '], .letters 'd' 1, .letters 'M' 4,
      .letters 'y' 4, .literal "%o'20 ".toList, .letters 'h' 2, .letters 'a' 1, .letters 'm' 2,
      .literal [':'], .letters 's' 2, .letters 'S' 4]
      "EEEE dMMMMyyyy'%o''20' hhamm:ssSSSS".toList := tokenize_eq_ok_iff.mp rfl
  have hcomplete : IsComplete [.letters 'E' 4, .literal [' '], .letters 'd' 1, .letters 'M' 4,
      .letters 'y' 4, .literal "%o'20 ".toList, .letters 'h' 2, .letters 'a' 1, .letters 'm' 2,
      .literal [':'], .letters 's' 2, .letters 'S' 4] :=
    ⟨['h', 'a'], by decide, ['E'], by decide, by decide⟩
  obtain ⟨format, hcompile, hparse⟩ := compile_parse_write hspells hcomplete
  exact ⟨format, hcompile, hparse ⟨⟨1969, 12, 31⟩, 23, 59, 59, 999999999⟩ (by decide) (by decide)
    (by decide) (by decide) ⟨.utc, 2024⟩ rfl⟩

end LogIntake.Timestamp
