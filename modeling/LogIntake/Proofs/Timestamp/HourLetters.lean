import LogIntake.Proofs.Timestamp.RoundTrip

/-!
# Hours by their letters

Four letters stand for the hour: `H` counts it from 0 to 23 and `k` from 1 to 24, `K` counts the hour of
the half day from 0 to 11 and `h` from 1 to 12.

* `shownHour`, `writeByLetter`: a date-time as the letters of a pattern show it.
* `plainLetter`: the letter that is read in the same way. `k` is read as `H`, and `K` as `h`.
* `parse_plain`: what both letters show alike is read alike.
* `scan_refused`: an hour that is out of range ends the reading, whatever precedes and follows it.
* **`compile_parse_writeByLetter`**: every hour is read back, except 24 for `k` and 0 for `K`.
-/

namespace LogIntake.Timestamp

open Calendar Text

/-! ## Writing -/

/-- The number that a letter shows for an hour of the day. -/
def shownHour (hour : Nat) : Char → Nat
  | 'k' => if hour = 0 then 24 else hour
  | 'h' => if hour % 12 = 0 then 12 else hour % 12
  | 'K' => hour % 12
  | _ => hour

/-- What a token shows of a date-time, where the hour is counted as its letter says. -/
def Token.writeByLetter (t : DateTime) : Token → List Char
  | .letters letter count =>
    if letter ∈ ['H', 'k', 'h', 'K'] then paddedDigits 2 (shownHour t.hour letter)
    else writeLetters t count letter
  | .literal text => text

/-- A date-time written along tokens, where the hour is counted as its letter says. -/
def writeByLetter (t : DateTime) (tokens : List Token) : List Char :=
  tokens.flatMap (Token.writeByLetter t)

/-- The runs show every part of a date-time once. The hour has one of its four letters, with the half of
the day beside it where it is counted in halves. -/
def ShowsMoment (tokens : List Token) : Prop :=
  ∃ hour ∈ [['H'], ['k'], ['h', 'a'], ['K', 'a']],
    (letters tokens).Perm (['y', 'M', 'd', 'm', 's', 'S'] ++ hour)

/-! ## Letters that are read alike -/

/-- The hour letter that is read in the same way and is shown as it is read. -/
def plainLetter : Char → Char
  | 'k' => 'H'
  | 'K' => 'h'
  | letter => letter

/-- The token with its hour letter made plain. -/
def Token.plain : Token → Token
  | .letters letter count => .letters (plainLetter letter) count
  | .literal text => .literal text

variable {tokens front back : List Token} {t : DateTime} {letter : Char} {count : Nat}

theorem plainLetter_of_ne (hk : letter ≠ 'k') (hK : letter ≠ 'K') : plainLetter letter = letter := by
  unfold plainLetter
  split
  · exact absurd rfl hk
  · exact absurd rfl hK
  · rfl

theorem letters_map_plain (tokens : List Token) :
    letters (tokens.map Token.plain) = (letters tokens).map plainLetter := by
  induction tokens with
  | nil => rfl
  | cons token tokens ih =>
    cases token with
    | letters letter count => exact congrArg (plainLetter letter :: ·) ih
    | literal text => exact ih

theorem Token.steps_plain (marks : Bool) (token : Token) :
    token.plain.steps marks = token.steps marks := by
  cases token with
  | letters letter count =>
    change (Token.letters (plainLetter letter) count).steps marks = _
    unfold plainLetter
    split <;> rfl
  | literal text => rfl

theorem mapM_steps_plain (marks : Bool) (tokens : List Token) :
    (tokens.map Token.plain).mapM (Token.steps marks) = tokens.mapM (Token.steps marks) := by
  rw [List.mapM_map]
  exact congrArg (List.mapM · tokens) (funext (Token.steps_plain marks))

/-- Letters among which a plain letter stands with those it replaces are found again. -/
theorem hasLetter_map_plain {among : List Char}
    (hamong : ∀ letter, plainLetter letter ∈ among ↔ letter ∈ among) (tokens : List Token) :
    hasLetter among (tokens.map Token.plain) = hasLetter among tokens := by
  rw [Bool.eq_iff_iff, hasLetter_iff, hasLetter_iff, letters_map_plain]
  simp only [List.mem_map]
  constructor
  · rintro ⟨_, hmem, letter, hletter, rfl⟩
    exact ⟨letter, (hamong letter).mp hmem, hletter⟩
  · rintro ⟨letter, hmem, hletter⟩
    exact ⟨_, (hamong letter).mpr hmem, letter, hletter, rfl⟩

/-- Among all hour letters or none of them, a plain letter is found with those it replaces. -/
theorem plainLetter_mem_iff (among : List Char) (hH : 'H' ∈ among ↔ 'k' ∈ among)
    (hh : 'h' ∈ among ↔ 'K' ∈ among) (letter : Char) : plainLetter letter ∈ among ↔ letter ∈ among := by
  unfold plainLetter
  split
  · exact hH
  · exact hh
  · exact Iff.rfl

theorem hasLetter_half_plain : hasLetter ['a'] (tokens.map Token.plain) = hasLetter ['a'] tokens :=
  hasLetter_map_plain (plainLetter_mem_iff ['a'] (by decide) (by decide)) tokens

variable (pattern : String) (steps : List Step)

theorem known_plain (tokens : List Token) (year : Int) :
    Format.known ⟨pattern, tokens.map Token.plain, steps⟩ year =
      Format.known ⟨pattern, tokens, steps⟩ year := by
  have hyear := hasLetter_map_plain (plainLetter_mem_iff ['y'] (by decide) (by decide)) tokens
  have hdate := hasLetter_map_plain (plainLetter_mem_iff ['y', 'M', 'd'] (by decide) (by decide)) tokens
  rw [Format.known, Format.known, Format.hasDate, Format.hasDate, Format.hasYear, Format.hasYear, hyear,
    hdate]

/-- A format reads a text alike if its hour letter is made plain. -/
theorem parse_plain (tokens : List Token) (almanac : Almanac) (text : String) :
    Format.parse ⟨pattern, tokens.map Token.plain, steps⟩ almanac text =
      Format.parse ⟨pattern, tokens, steps⟩ almanac text := by
  have htime := hasLetter_map_plain
    (plainLetter_mem_iff ['H', 'k', 'h', 'K', 'm', 's', 'S'] (by decide) (by decide)) tokens
  have hoffset := hasLetter_map_plain (plainLetter_mem_iff ['Z', 'X'] (by decide) (by decide)) tokens
  have hresolve : ∀ r, Format.resolve ⟨pattern, tokens.map Token.plain, steps⟩ almanac.zone r =
      Format.resolve ⟨pattern, tokens, steps⟩ almanac.zone r := fun r => by
    rw [Format.resolve, Format.resolve, Format.hasOffset, Format.hasOffset, Format.hasTime,
      Format.hasTime, hoffset, htime]
  simp only [Format.parse, known_plain, hresolve]

/-- Where the letter of the hour shows the same number, a token shows what its plain form shows. -/
theorem Token.write_plain (token : Token) (hk : ∀ count, token = .letters 'k' count → t.hour ≠ 0)
    (hK : ∀ count, token = .letters 'K' count → t.hour % 12 ≠ 0) :
    token.plain.write t = token.writeByLetter t := by
  have hhalf : (t.hour + 11) % 12 + 1 = if t.hour % 12 = 0 then 12 else t.hour % 12 := by
    split <;> omega
  cases token with
  | literal text => rfl
  | letters letter count =>
    have hk' : letter = 'k' → t.hour ≠ 0 := fun h => hk count (by rw [h])
    have hK' : letter = 'K' → t.hour % 12 ≠ 0 := fun h => hK count (by rw [h])
    simp only [Token.plain, Token.write, Token.writeByLetter]
    by_cases hhour : letter ∈ ['H', 'k', 'h', 'K']
    · rw [if_pos hhour]
      simp only [List.mem_cons, List.not_mem_nil, or_false] at hhour
      rcases hhour with rfl | rfl | rfl | rfl
      · rfl
      · exact congrArg (paddedDigits 2) (if_neg (hk' rfl)).symm
      · exact congrArg (paddedDigits 2) hhalf
      · exact congrArg (paddedDigits 2) (hhalf.trans (if_neg (hK' rfl)))
    · rw [if_neg hhour, plainLetter_of_ne]
      · rintro rfl
        exact hhour (by decide)
      · rintro rfl
        exact hhour (by decide)

theorem write_map_plain (hk : 'k' ∈ letters tokens → t.hour ≠ 0)
    (hK : 'K' ∈ letters tokens → t.hour % 12 ≠ 0) :
    write t (tokens.map Token.plain) = writeByLetter t tokens := by
  rw [write, writeByLetter, List.flatMap_map]
  refine List.flatMap_congr fun token htoken => token.write_plain (fun count h => ?_) fun count h => ?_
  · exact hk (mem_letters_iff.mpr ⟨count, h ▸ htoken⟩)
  · exact hK (mem_letters_iff.mpr ⟨count, h ▸ htoken⟩)

/-- What is shown of a date-time, split at the run for the hour. -/
theorem writeByLetter_hour (t : DateTime) (front back : List Token) (count : Nat)
    (hhour : letter ∈ ['H', 'k', 'h', 'K']) :
    writeByLetter t (front ++ .letters letter count :: back) =
      writeByLetter t front ++
        (paddedDigits 2 (shownHour t.hour letter) ++ writeByLetter t back) := by
  rw [writeByLetter, List.flatMap_append, List.flatMap_cons, Token.writeByLetter, if_pos hhour]
  rfl

/-! ## Hours that are refused -/

/-- The hour is shown by a number that is not read: `k` shows 24 after midnight, and `K` shows 0 after
midnight and noon. -/
def ShowsRefusedHour (tokens : List Token) (hour : Nat) : Prop :=
  'k' ∈ letters tokens ∧ hour = 0 ∨ 'K' ∈ letters tokens ∧ hour % 12 = 0

instance (tokens : List Token) (hour : Nat) : Decidable (ShowsRefusedHour tokens hour) :=
  inferInstanceAs (Decidable (_ ∨ _))

/-- A number that is out of range is refused, whatever follows it. -/
theorem exists_directive_refused {marks : Bool} {hour : Nat} (count : Nat)
    (h : letter = 'k' ∧ hour = 0 ∨ (letter = 'K' ∧ marks = true) ∧ hour % 12 = 0) :
    ∃ d, Directive.ofLetters? marks letter count = some d ∧ ∀ r rest,
      d.scan r (paddedDigits 2 (shownHour hour letter) ++ rest) = .error .outOfRange := by
  rcases h with ⟨rfl, rfl⟩ | ⟨⟨rfl, rfl⟩, hhour⟩
  · refine ⟨.hour, rfl, fun r rest => ?_⟩
    have hscan := scanPart_paddedDigits 0 23 (n := shownHour 0 'k') (by decide) rest
    rw [Directive.scan, hscan]
    rfl
  · refine ⟨.hourOfHalf, rfl, fun r rest => ?_⟩
    have hshown : shownHour hour 'K' = 0 := hhour
    have hscan := scanPart_paddedDigits 1 12 (n := 0) (by decide) rest
    rw [hshown, Directive.scan, hscan]
    rfl

/-- The steps of tokens in a row stand in the same order. -/
theorem exists_later_steps {marks : Bool} {token : Token} {steps first : List (List Step)}
    {own : List Step} (h : (front ++ token :: back).mapM (Token.steps marks) = .ok steps)
    (hfirst : front.mapM (Token.steps marks) = .ok first) (hown : token.steps marks = .ok own) :
    ∃ later, steps = first ++ own :: later := by
  rw [List.mapM_append, hfirst, List.mapM_cons, hown] at h
  cases hback : back.mapM (Token.steps marks) with
  | error e =>
    rw [hback] at h
    cases h
  | ok later =>
    rw [hback] at h
    exact ⟨later, (Except.ok.inj h).symm⟩

/-- An hour that is out of range ends the reading, whatever precedes and follows it. -/
theorem scan_refused {marks : Bool} (h : IsWritable t)
    (hread : ∀ token ∈ front, token.IsReadable t marks) {d : Directive} {n : Nat} (hn : n < 100)
    (hscan : ∀ r rest, d.scan r (paddedDigits 2 n ++ rest) = .error .outOfRange) :
    ∃ first, front.mapM (Token.steps marks) = .ok first ∧ ∀ later text,
      scan (first.flatten ++ .read d :: later) (told t [])
        (trim (write t front ++ (paddedDigits 2 n ++ text))) = .error .outOfRange := by
  obtain ⟨first, hfirst, hreads⟩ := reads_write_append h front hread
  refine ⟨first, hfirst, fun later text => ?_⟩
  have hsolid : IsSolid (paddedDigits 2 n) :=
    (isNumeral_paddedDigits (by decide) hn).isSolid (by decide)
  have hfails : ∀ r rest,
      scan (.read d :: later) r (paddedDigits 2 n ++ rest) = .error .outOfRange := fun r rest => by
    rw [scan, Step.run, hscan]
  have hend : ∀ r, Reads (.read d :: later) r (.error .outOfRange)
      (trimEnd (paddedDigits 2 n ++ text)) := fun r => by
    rw [trimEnd_append_of_solid hsolid.1 hsolid.2]
    exact ⟨hfails r _, by rw [trimStart_append_of_solid hsolid.1 hsolid.2, hfails]⟩
  rw [trim_eq_trimStart_trimEnd]
  exact (hreads [] _ _ _ (hend _)).trimmed

namespace ShowsMoment

theorem isComplete_plain (h : ShowsMoment tokens) : IsComplete (tokens.map Token.plain) := by
  obtain ⟨hour, hhour, hperm⟩ := h
  have hplain := hperm.map plainLetter
  rw [← letters_map_plain] at hplain
  simp only [List.mem_cons, List.not_mem_nil, or_false] at hhour
  rcases hhour with rfl | rfl | rfl | rfl
  · exact ⟨['H'], by decide, [], by decide, hplain⟩
  · exact ⟨['H'], by decide, [], by decide, hplain⟩
  · exact ⟨['h', 'a'], by decide, [], by decide, hplain⟩
  · exact ⟨['h', 'a'], by decide, [], by decide, hplain⟩

/-- There is one run for the hour. -/
theorem countP_hour (h : ShowsMoment tokens) :
    (letters tokens).countP (· ∈ ['H', 'k', 'h', 'K']) = 1 := by
  obtain ⟨hour, hhour, hperm⟩ := h
  rw [hperm.countP_eq]
  simp only [List.mem_cons, List.not_mem_nil, or_false] at hhour
  rcases hhour with rfl | rfl | rfl | rfl <;> decide

/-- In front of the run for the hour there is none. -/
theorem not_mem_front (h : ShowsMoment (front ++ .letters letter count :: back))
    (hhour : letter ∈ ['H', 'k', 'h', 'K']) {other : Char} (hother : other ∈ ['H', 'k', 'h', 'K']) :
    other ∉ letters front := by
  intro hmem
  have hone := h.countP_hour
  have hletters : letters (front ++ .letters letter count :: back) =
      letters front ++ letter :: letters back := List.filterMap_append ..
  rw [hletters, List.countP_append, List.countP_cons_of_pos (by simpa using hhour)] at hone
  have hfront : 0 < (letters front).countP (· ∈ ['H', 'k', 'h', 'K']) :=
    List.countP_pos_iff.mpr ⟨other, hmem, by simpa using hother⟩
  omega

/-- An hour of the half day stands beside the half. -/
theorem marks_half (h : ShowsMoment tokens) (hletter : 'K' ∈ letters tokens) :
    hasLetter ['a'] tokens = true := by
  rw [← hasLetter_half_plain]
  refine h.isComplete_plain.marks_half ?_
  rw [letters_map_plain]
  exact List.mem_map.mpr ⟨'K', hletter, rfl⟩

/-! ## Parsing -/

theorem exists_compile (h : ShowsMoment tokens) {pattern : String}
    (hspells : Spells tokens pattern.toList) :
    ∃ steps, tokens.mapM (Token.steps (hasLetter ['a'] tokens)) = .ok steps ∧
      Format.compile pattern = .ok ⟨pattern, tokens, steps.flatten⟩ := by
  have hplain := h.isComplete_plain
  obtain ⟨steps, hsteps⟩ := hplain.exists_steps
  rw [hasLetter_half_plain, mapM_steps_plain] at hsteps
  have hday : 'd' ∈ letters tokens := by
    obtain ⟨hour, hhour, hperm⟩ := h
    exact hperm.mem_iff.mpr (by simp)
  exact ⟨steps, hsteps, hspells.compile_eq_ok hday hsteps⟩

variable {steps : List (List Step)} {almanac : Almanac} (pattern : String)

/-- An hour that is shown by a number that is read is read back. -/
theorem parse_shown (h : ShowsMoment tokens)
    (hsteps : tokens.mapM (Token.steps (hasLetter ['a'] tokens)) = .ok steps) (ht : IsWritable t)
    (hyear : .letters 'y' 2 ∉ tokens) (hzone : almanac.zone = .utc)
    (hhour : ¬ ShowsRefusedHour tokens t.hour) :
    Format.parse ⟨pattern, tokens, steps.flatten⟩ almanac (String.ofList (writeByLetter t tokens)) =
      .ok (t.seconds * 1000 + t.nanosecond / 1000000) := by
  have hwritten : write t (tokens.map Token.plain) = writeByLetter t tokens :=
    write_map_plain (fun hk hzero => hhour (.inl ⟨hk, hzero⟩)) fun hK hzero =>
      hhour (.inr ⟨hK, hzero⟩)
  have hshort : .letters 'y' 2 ∉ tokens.map Token.plain := by
    rw [List.mem_map]
    rintro ⟨token, hmem, htoken⟩
    cases token with
    | literal text => exact Token.noConfusion htoken
    | letters letter count =>
      obtain ⟨hletter, rfl⟩ := Token.letters.inj htoken
      unfold plainLetter at hletter
      split at hletter
      · exact absurd hletter (by decide)
      · exact absurd hletter (by decide)
      · exact hyear (hletter ▸ hmem)
  rw [← mapM_steps_plain, ← hasLetter_half_plain] at hsteps
  rw [← parse_plain]
  refine h.isComplete_plain.parse_eq pattern hsteps ht (fun hmem => absurd hmem hshort) hzone ?_
  rw [String.toList_ofList, hwritten]

/-- The run for an hour that is refused, and what stands in front of it and behind it. -/
theorem exists_run_of_refused (h : ShowsMoment tokens) {hour : Nat}
    (hhour : ShowsRefusedHour tokens hour) :
    ∃ front letter count back, tokens = front ++ .letters letter count :: back ∧
      letter ∈ ['H', 'k', 'h', 'K'] ∧ shownHour hour letter < 100 ∧
      (letter = 'k' ∧ hour = 0 ∨ (letter = 'K' ∧ hasLetter ['a'] tokens = true) ∧ hour % 12 = 0) := by
  rcases hhour with ⟨hk, hzero⟩ | ⟨hK, hzero⟩
  · obtain ⟨count, hrun⟩ := mem_letters_iff.mp hk
    obtain ⟨front, back, htokens⟩ := List.append_of_mem hrun
    exact ⟨front, 'k', count, back, htokens, by decide, by simp [shownHour, hzero],
      .inl ⟨rfl, hzero⟩⟩
  · obtain ⟨count, hrun⟩ := mem_letters_iff.mp hK
    obtain ⟨front, back, htokens⟩ := List.append_of_mem hrun
    exact ⟨front, 'K', count, back, htokens, by decide, by simp [shownHour, hzero],
      .inr ⟨⟨rfl, h.marks_half hK⟩, hzero⟩⟩

/-- In front of the run for the hour every token shows what its plain form shows. -/
theorem write_front (h : ShowsMoment (front ++ .letters letter count :: back))
    (hhour : letter ∈ ['H', 'k', 'h', 'K']) (t : DateTime) :
    write t (front.map Token.plain) = writeByLetter t front :=
  write_map_plain (fun hk => absurd hk (h.not_mem_front hhour (by decide)))
    fun hK => absurd hK (h.not_mem_front hhour (by decide))

/-- An hour that is shown by a number that is not read makes the whole text unreadable. -/
theorem parse_refused (h : ShowsMoment tokens)
    (hsteps : tokens.mapM (Token.steps (hasLetter ['a'] tokens)) = .ok steps) (ht : IsWritable t)
    (hhour : ShowsRefusedHour tokens t.hour) :
    Format.parse ⟨pattern, tokens, steps.flatten⟩ almanac (String.ofList (writeByLetter t tokens)) =
      .error (.unreadable (String.ofList (trim (writeByLetter t tokens))) .outOfRange) := by
  obtain ⟨front, letter, count, back, rfl, hletter, hnumber, hcause⟩ := h.exists_run_of_refused hhour
  obtain ⟨d, hd, hscan⟩ := exists_directive_refused count hcause
  obtain ⟨digits, hdigits⟩ := h.isComplete_plain.exists_fraction
  have hplain : ∀ token ∈ front.map Token.plain,
      token ∈ (front ++ .letters letter count :: back).map Token.plain := fun token htoken => by
    rw [List.map_append]
    exact List.mem_append_left _ htoken
  have hread := h.isComplete_plain.isReadable (t := t) hdigits
  rw [hasLetter_half_plain] at hread
  obtain ⟨first, hfirst, hrefused⟩ := scan_refused (ht.shortened _)
    (fun token htoken => hread token (hplain token htoken)) hnumber hscan
  rw [mapM_steps_plain] at hfirst
  obtain ⟨later, rfl⟩ := exists_later_steps hsteps hfirst (Token.steps_letters hd)
  have hsplit : (first ++ [.read d] :: later).flatten = first.flatten ++ .read d :: later.flatten := by
    rw [List.flatten_append, List.flatten_cons, List.singleton_append]
  have hscanned := hrefused later.flatten (writeByLetter t back)
  rw [ht.write_shorten fun other hother => hdigits other (hplain _ hother), h.write_front hletter,
    ← writeByLetter_hour t front back count hletter, ← hsplit] at hscanned
  have hknown := h.isComplete_plain.known_eq (t := shorten (fractionDigits digits) t) pattern
    (first ++ [.read d] :: later).flatten almanac.year
  rw [known_plain] at hknown
  simp only [Format.parse, hknown, String.toList_ofList, hscanned]

end ShowsMoment

/-- **A pattern with any of the four hour letters is understood, and what it shows of a date-time is
parsed to the instant in milliseconds, unless the hour is one that `k` shows as 24 or `K` as 0**: such a
text is refused as out of range. -/
theorem compile_parse_writeByLetter {pattern : String} {tokens : List Token}
    (hspells : Spells tokens pattern.toList) (hshows : ShowsMoment tokens)
    (hyear : .letters 'y' 2 ∉ tokens) :
    ∃ format, Format.compile pattern = .ok format ∧
      ∀ t : DateTime, t.IsCivil → 0 ≤ t.date.year → t.date.year ≤ 9999 →
      ∀ almanac : Almanac, almanac.zone = .utc →
        format.parse almanac (String.ofList (writeByLetter t tokens)) =
          if ShowsRefusedHour tokens t.hour then
            .error (.unreadable (String.ofList (trim (writeByLetter t tokens))) .outOfRange)
          else .ok (t.seconds * 1000 + t.nanosecond / 1000000) := by
  obtain ⟨steps, hsteps, hcompile⟩ := hshows.exists_compile hspells
  refine ⟨_, hcompile, fun t hcivil hfirst hlast almanac hzone => ?_⟩
  have ht : IsWritable t := ⟨hcivil, hfirst, hlast⟩
  split
  · next hhour => exact hshows.parse_refused pattern hsteps ht hhour
  · next hhour => exact hshows.parse_shown pattern hsteps ht hyear hzone hhour

/-- Half past one in the afternoon is read back from `K`, and half past noon is refused. -/
theorem compile_parse_writeByLetter_afterNoon :
    ∃ format, Format.compile "d.M.yyyy KK:mm:ss,SSS a" = .ok format ∧
      format.parse ⟨.utc, 2024⟩ "29.02.2024 01:30:05,250 PM" = .ok 1709213405250 ∧
      format.parse ⟨.utc, 2024⟩ "29.02.2024 00:30:05,250 PM" =
        .error (.unreadable "29.02.2024 00:30:05,250 PM" .outOfRange) := by
  have hspells : Spells [.letters 'd' 1, .literal ['.'], .letters 'M' 1, .literal ['.'],
      .letters 'y' 4, .literal [' '], .letters 'K' 2, .literal [':'], .letters 'm' 2, .literal [':'],
      .letters 's' 2, .literal [','], .letters 'S' 3, .literal [' '], .letters 'a' 1]
      "d.M.yyyy KK:mm:ss,SSS a".toList := tokenize_eq_ok_iff.mp rfl
  have hshows : ShowsMoment [.letters 'd' 1, .literal ['.'], .letters 'M' 1, .literal ['.'],
      .letters 'y' 4, .literal [' '], .letters 'K' 2, .literal [':'], .letters 'm' 2, .literal [':'],
      .letters 's' 2, .literal [','], .letters 'S' 3, .literal [' '], .letters 'a' 1] :=
    ⟨['K', 'a'], by decide, by decide⟩
  obtain ⟨format, hcompile, hparse⟩ := compile_parse_writeByLetter hspells hshows (by decide)
  exact ⟨format, hcompile,
    hparse ⟨⟨2024, 2, 29⟩, 13, 30, 5, 250000000⟩ (by decide) (by decide) (by decide) ⟨.utc, 2024⟩ rfl,
    hparse ⟨⟨2024, 2, 29⟩, 12, 30, 5, 250000000⟩ (by decide) (by decide) (by decide) ⟨.utc, 2024⟩ rfl⟩

/-- Midnight, which `k` shows as 24, is refused. -/
theorem not_parsed_midnight :
    let tokens : List Token := [.letters 'y' 4, .literal ['-'], .letters 'M' 2, .literal ['-'],
      .letters 'd' 2, .literal [' '], .letters 'k' 2, .literal [':'], .letters 'm' 2, .literal [':'],
      .letters 's' 2, .literal [','], .letters 'S' 3]
    Spells tokens "yyyy-MM-dd kk:mm:ss,SSS".toList ∧ ShowsMoment tokens ∧ .letters 'y' 2 ∉ tokens ∧
    writeByLetter ⟨⟨2024, 1, 1⟩, 0, 0, 0, 0⟩ tokens = "2024-01-01 24:00:00,000".toList ∧
    (Format.compile "yyyy-MM-dd kk:mm:ss,SSS").map (·.parse ⟨.utc, 2024⟩ "2024-01-01 24:00:00,000") =
      .ok (.error (.unreadable "2024-01-01 24:00:00,000" .outOfRange)) :=
  ⟨tokenize_eq_ok_iff.mp rfl, ⟨['k'], by decide, by decide⟩, by decide, by decide, by decide⟩

end LogIntake.Timestamp
