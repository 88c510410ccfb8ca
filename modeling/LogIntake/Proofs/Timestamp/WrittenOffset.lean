import LogIntake.Proofs.Calendar.Course
import LogIntake.Proofs.Timestamp.RoundTrip

/-!
# Timestamps with an offset

* `WrittenOffset`: an offset from universal time; `writeZoned`: a date-time with its offset, written along
  the tokens of a pattern.
* `scanOffset_write`: a written offset is read, with or without a colon.
* `scan_withOffset`: steps that read no offset go on in the same way where one is known.
* `offset_not_mem_steps`: the other letters have no such step.
* `reads_around_offset`: a date-time around its offset is read and tells all its parts.
* `IsWritable.resolve_withOffset`: an offset in the text decides alone, whatever the zone.
* **`compile_parse_writeZoned`**: what is written along a pattern with an offset is parsed to the instant in
  milliseconds, wherever the offset stands and whatever the local clock shows.
-/

namespace LogIntake.Timestamp

open Calendar Text

/-! ## Writing -/

/-- An offset from universal time as it is written: which side of it, hours and minutes. -/
structure WrittenOffset where
  west : Bool
  hours : Nat
  minutes : Nat
  hours_lt : hours < 24 := by decide
  minutes_lt : minutes < 60 := by decide

namespace WrittenOffset

/-- The seconds by which clocks are ahead of universal time. -/
def seconds (z : WrittenOffset) : Int :=
  (if z.west then -1 else 1) * (z.hours * 3600 + z.minutes * 60)

/-- A sign, hours and minutes, perhaps with a colon between them. -/
def write (z : WrittenOffset) (colon : Bool) : List Char :=
  (if z.west then '-' else '+') ::
    (paddedDigits 2 z.hours ++ ((if colon then [':'] else []) ++ paddedDigits 2 z.minutes))

end WrittenOffset

/-- What a token shows of a date-time and its offset. Only three or more `X` in a row show a colon. -/
def Token.writeZoned (t : DateTime) (z : WrittenOffset) : Token → List Char
  | .letters 'Z' _ => z.write false
  | .letters 'X' count => z.write (2 < count)
  | token => token.write t

/-- A date-time with its offset written along tokens. -/
def writeZoned (t : DateTime) (z : WrittenOffset) (tokens : List Token) : List Char :=
  tokens.flatMap (Token.writeZoned t z)

/-- The runs show every part of a date-time and its offset once. -/
def ShowsZonedMoment (tokens : List Token) : Prop :=
  ∃ zone ∈ ['Z', 'X'], (letters tokens).Perm (zone :: ['y', 'M', 'd', 'm', 's', 'S', 'H'])

variable {t : DateTime} {z : WrittenOffset} {tokens front back : List Token} {letter : Char}
  {count n : Nat} {s rest : List Char}

/-! ## Reading an offset -/

theorem WrittenOffset.isOffset_seconds (z : WrittenOffset) : isOffset z.seconds = true := by
  have hhours := z.hours_lt
  have hminutes := z.minutes_lt
  rw [isOffset, decide_eq_true_eq, seconds]
  split <;> omega

theorem WrittenOffset.isSolid_write (z : WrittenOffset) (colon : Bool) : IsSolid (z.write colon) := by
  have hhours : IsSolid (paddedDigits 2 z.hours) :=
    isSolid_paddedDigits_two (Nat.lt_trans z.hours_lt (by decide))
  have hminutes : IsSolid (paddedDigits 2 z.minutes) :=
    isSolid_paddedDigits_two (Nat.lt_trans z.minutes_lt (by decide))
  refine ⟨List.cons_ne_nil _ _, fun c hc => ?_⟩
  rw [write, List.mem_cons, List.mem_append, List.mem_append] at hc
  rcases hc with rfl | hc | hc | hc
  · split <;> decide
  · exact hhours.2 c hc
  · split at hc
    · rw [List.mem_singleton.mp hc]
      decide
    · exact absurd hc List.not_mem_nil
  · exact hminutes.2 c hc

theorem scanTwoDigits_paddedDigits (h : n < 100) (rest : List Char) :
    scanTwoDigits (paddedDigits 2 n ++ rest) = .ok (n, rest) := by
  have hnumeral : IsNumeral 2 (paddedDigits 2 n) := isNumeral_paddedDigits (by decide) h
  have hvalue := digitsValue_paddedDigits 2 n
  obtain ⟨a, b, hab⟩ := List.length_eq_two.mp hnumeral.length
  rw [hab] at hnumeral hvalue ⊢
  have hdigits : (isAsciiDigit a && isAsciiDigit b) = true := by
    rw [hnumeral.digits a (by simp), hnumeral.digits b (by simp)]
    rfl
  have hsize : ¬ Utf8.size (a :: b :: rest) < 2 := by
    have hleast := Utf8.length_le_size (a :: b :: rest)
    simp only [List.length_cons] at hleast
    omega
  change scanTwoDigits (a :: b :: rest) = _
  rw [scanTwoDigits, if_neg hsize, if_pos hdigits, hvalue]

/-- **A written offset is read**, with or without a colon. -/
theorem scanOffset_write (z : WrittenOffset) (colon : Bool) (rest : List Char) :
    scanOffset (z.write colon ++ rest) = .ok (z.seconds, rest) := by
  have hhours := z.hours_lt
  have hminutes := z.minutes_lt
  have hsolid := z.isSolid_write colon
  have hnumeral : IsNumeral 2 (paddedDigits 2 z.minutes) := isNumeral_paddedDigits (by decide) (by omega)
  -- between the hours and the minutes nothing else than the colon is passed over
  have hcolon : ((if colon then [':'] else []) ++ paddedDigits 2 z.minutes ++ rest).dropWhile
      (fun c => c == ':' || isBlank c) = paddedDigits 2 z.minutes ++ rest := by
    obtain ⟨a, b, hab⟩ := List.length_eq_two.mp hnumeral.length
    have ha : isAsciiDigit a = true := hnumeral.digits a (by simp [hab])
    have hdigit : ¬ (a == ':' || isBlank a) = true := by
      rw [isBlank_of_isAsciiDigit ha, Bool.or_false, beq_iff_eq]
      rintro rfl
      exact absurd ha (by decide)
    rw [hab]
    cases colon <;> simp [hdigit]
  have hsign : ∀ text, scanSign ((if z.west then '-' else '+') :: text) =
      .ok (if z.west then -1 else 1, text) := fun text => by cases z.west <;> rfl
  have htext : z.write colon ++ rest = (if z.west then '-' else '+') :: (paddedDigits 2 z.hours ++
      ((if colon then [':'] else []) ++ paddedDigits 2 z.minutes ++ rest)) := by
    simp [WrittenOffset.write]
  rw [scanOffset, trimStart_append_of_solid hsolid.1 hsolid.2, htext, hsign, ok_bind]
  dsimp only
  rw [scanTwoDigits_paddedDigits (by omega), ok_bind]
  dsimp only
  rw [hcolon, scanTwoDigits_paddedDigits (by omega), ok_bind]
  dsimp only
  rw [if_neg (by omega)]
  rfl

/-! ## Readings with an offset -/

/-- A reading with an offset that is known. -/
def Reading.withOffset (r : Reading) (offset : Int) : Reading :=
  { r with offset := some offset }

theorem Directive.scan_withOffset {d : Directive} (hd : d ≠ .offset) (r : Reading) (offset : Int)
    (s : List Char) : d.scan (r.withOffset offset) s =
      (d.scan r s).map fun (r', rest) => (r'.withOffset offset, rest) := by
  have hmap : ∀ {α β γ : Type} (x : Except ScanError α) (g : α → Except ScanError β) (f : β → γ),
      (x >>= g).map f = x >>= fun a => (g a).map f := fun x g f => by cases x <;> rfl
  cases d with
  | offset => exact absurd rfl hd
  | year | yearOfCentury | month | monthName | day | hour | hourOfHalf | half | minute | second
    | fraction | weekdayName =>
    simp only [Directive.scan, hmap]
    rfl

/-- Steps that read no offset go on in the same way where an offset is known. -/
theorem scan_withOffset {steps : List Step} (h : .read .offset ∉ steps) (r : Reading) (offset : Int)
    (s : List Char) :
    scan steps (r.withOffset offset) s = (scan steps r s).map (·.withOffset offset) := by
  induction steps generalizing r s with
  | nil =>
    rw [scan, scan]
    cases s.isEmpty <;> rfl
  | cons step steps ih =>
    rw [List.mem_cons, not_or] at h
    have hstep : step.run (r.withOffset offset) s =
        (step.run r s).map fun (r', rest) => (r'.withOffset offset, rest) := by
      cases step with
      | expect text =>
        simp only [Step.run]
        split
        · rfl
        · split <;> rfl
      | blanks => rfl
      | read d => exact d.scan_withOffset (fun hd => h.1 (by rw [hd])) r offset s
    rw [scan, scan, hstep]
    cases step.run r s with
    | error e => rfl
    | ok result => exact ih h.2 result.1 result.2

/-! ## Steps that read no offset -/

theorem read_not_mem_literal (d : Directive) (text : List Char) :
    .read d ∉ text.foldr consStep [] := by
  have hcons : ∀ (c : Char) (steps : List Step), .read d ∈ consStep c steps → .read d ∈ steps := by
    intro c steps hmem
    unfold consStep at hmem
    repeat' split at hmem
    all_goals simpa using hmem
  induction text with
  | nil => exact List.not_mem_nil
  | cons c text ih => exact fun hmem => ih (hcons c _ hmem)

theorem Directive.ofLetters?_ne_offset {marks : Bool} (hletter : letter ∈ writtenLetters) :
    Directive.ofLetters? marks letter count ≠ some .offset := by
  simp only [writtenLetters, List.mem_cons, List.not_mem_nil, or_false] at hletter
  rcases hletter with rfl | rfl | rfl | rfl | rfl | rfl | rfl | rfl | rfl | rfl <;>
    simp only [Directive.ofLetters?]
  -- the runs that stand for one of two parts
  case inl | inr.inl | inr.inr.inr.inr.inr.inl => split <;> simp
  all_goals simp

/-- All steps of a pattern are those of one of its tokens. -/
theorem exists_token_of_mem {marks : Bool} {steps : List (List Step)} {own : List Step}
    (hsteps : tokens.mapM (Token.steps marks) = .ok steps) (hmem : own ∈ steps) :
    ∃ token ∈ tokens, token.steps marks = .ok own := by
  induction tokens generalizing steps with
  | nil =>
    obtain rfl : [] = steps := Except.ok.inj hsteps
    exact absurd hmem List.not_mem_nil
  | cons token tokens ih =>
    rw [List.mapM_cons] at hsteps
    cases hfirst : token.steps marks with
    | error e =>
      rw [hfirst] at hsteps
      cases hsteps
    | ok first =>
      cases hlater : tokens.mapM (Token.steps marks) with
      | error e =>
        rw [hfirst, hlater] at hsteps
        cases hsteps
      | ok later =>
        rw [hfirst, hlater] at hsteps
        obtain rfl : first :: later = steps := Except.ok.inj hsteps
        rcases List.mem_cons.mp hmem with rfl | hmem
        · exact ⟨token, List.mem_cons_self, hfirst⟩
        · obtain ⟨other, hother, hsteps⟩ := ih hlater hmem
          exact ⟨other, List.mem_cons_of_mem _ hother, hsteps⟩

/-- Tokens without the letters of an offset have no step that reads one. -/
theorem offset_not_mem_steps {marks : Bool} {steps : List (List Step)}
    (h : ∀ letter ∈ letters tokens, letter ∈ writtenLetters)
    (hsteps : tokens.mapM (Token.steps marks) = .ok steps) : .read .offset ∉ steps.flatten := by
  intro hmem
  obtain ⟨own, hown, hmem⟩ := List.mem_flatten.mp hmem
  obtain ⟨token, htoken, hsteps⟩ := exists_token_of_mem hsteps hown
  cases token with
  | literal text =>
    obtain rfl : text.foldr consStep [] = own := Except.ok.inj hsteps
    exact read_not_mem_literal _ text hmem
  | letters letter count =>
    rw [Token.steps] at hsteps
    split at hsteps
    · next d hd =>
      obtain rfl : [.read d] = own := Except.ok.inj hsteps
      obtain rfl : .offset = d := Step.read.inj (List.mem_singleton.mp hmem)
      exact Directive.ofLetters?_ne_offset (h letter (mem_letters_iff.mpr ⟨count, htoken⟩)) hd
    · exact absurd hsteps (by simp)

/-! ## A date-time around its offset -/

theorem Reads.withOffset {steps : List Step} {r : Reading} {outcome : Except ScanError Reading}
    (h : Reads steps r outcome s) (hsteps : .read .offset ∉ steps) (offset : Int) :
    Reads steps (r.withOffset offset) (outcome.map (·.withOffset offset)) s :=
  ⟨by rw [scan_withOffset hsteps, h.whole], by rw [scan_withOffset hsteps, h.trimmed]⟩

/-- A written offset is read in front of what follows it. -/
theorem Reads.offset {later : List Step} {r : Reading} {outcome : Except ScanError Reading}
    (hr : r.offset = none) (z : WrittenOffset) (colon : Bool)
    (h : Reads later (r.withOffset z.seconds) outcome (trimEnd s)) :
    Reads (.read .offset :: later) r outcome (trimEnd (z.write colon ++ s)) := by
  have hsolid := z.isSolid_write colon
  have hscan : Directive.offset.scan r (z.write colon ++ trimEnd s) =
      .ok (r.withOffset z.seconds, trimEnd s) := by
    rw [Directive.scan, scanOffset_write, ok_bind]
    dsimp only
    rw [hr]
    rfl
  have hwhole : scan (.read .offset :: later) r (z.write colon ++ trimEnd s) = outcome := by
    rw [scan, Step.run, hscan]
    exact h.whole
  rw [trimEnd_append_of_solid hsolid.1 hsolid.2]
  exact ⟨hwhole, by rwa [trimStart_append_of_solid hsolid.1 hsolid.2]⟩

/-- **A date-time with its offset somewhere between its parts is read**, and tells them all. -/
theorem reads_around_offset {marks : Bool} (h : IsWritable t)
    (hread : ∀ token ∈ front ++ back, token.IsReadable t marks) :
    ∃ first later, front.mapM (Token.steps marks) = .ok first ∧
      back.mapM (Token.steps marks) = .ok later ∧ ∀ (z : WrittenOffset) (colon : Bool),
        Reads (first.flatten ++ .read .offset :: later.flatten) (told t [])
          (.ok ((told t ((front ++ back).filterMap (Token.directive? marks)).reverse).withOffset
            z.seconds))
          (trimEnd (write t front ++ (z.write colon ++ write t back))) := by
  have hletters : ∀ letter ∈ letters back, letter ∈ writtenLetters := fun letter hletter => by
    obtain ⟨count, hmem⟩ := mem_letters_iff.mp hletter
    exact (hread _ (List.mem_append_right _ hmem)).1
  obtain ⟨first, hfirst, hfront⟩ := reads_write_append h front fun token htoken =>
    hread token (List.mem_append_left _ htoken)
  obtain ⟨later, hlater, hback⟩ := reads_write h back fun token htoken =>
    hread token (List.mem_append_right _ htoken)
  -- what follows the offset is read as if none were known
  refine ⟨first, later, hfirst, hlater, fun z colon =>
    hfront [] _ _ _ (Reads.offset rfl z colon ?_)⟩
  rw [List.append_nil, List.filterMap_append, List.reverse_append]
  exact (hback _).withOffset (offset_not_mem_steps hletters hlater) z.seconds

/-! ## Patterns with an offset -/

variable {zone : Char}

/-- The run of an offset does not matter where other letters are looked for. -/
theorem hasLetter_around (hzone : zone ∈ ['Z', 'X']) (among : List Char)
    (hamong : 'Z' ∉ among ∧ 'X' ∉ among) :
    hasLetter among (front ++ .letters zone count :: back) = hasLetter among (front ++ back) := by
  have hother : zone ∉ among := by
    simp only [List.mem_cons, List.not_mem_nil, or_false] at hzone
    rcases hzone with rfl | rfl
    · exact hamong.1
    · exact hamong.2
  simp [hasLetter, hother]

/-- The run of the offset stands between the parts of a complete pattern. -/
theorem ShowsZonedMoment.exists_split (h : ShowsZonedMoment tokens) :
    ∃ front zone count back, tokens = front ++ .letters zone count :: back ∧ zone ∈ ['Z', 'X'] ∧
      IsComplete (front ++ back) := by
  obtain ⟨zone, hzone, hperm⟩ := h
  obtain ⟨count, hmem⟩ := mem_letters_iff.mp (hperm.mem_iff.mpr List.mem_cons_self)
  obtain ⟨front, back, rfl⟩ := List.append_of_mem hmem
  have hrest : (letters (front ++ back)).Perm ['y', 'M', 'd', 'm', 's', 'S', 'H'] := by
    refine (List.Perm.trans ?_ hperm).cons_inv
    simp only [letters, List.filterMap_append, List.filterMap_cons, Token.letter?]
    exact List.perm_middle.symm
  exact ⟨front, zone, count, back, rfl, hzone, ['H'], by decide, [], by decide, hrest⟩

theorem writeZoned_eq_write (h : ∀ letter ∈ letters tokens, letter ∈ writtenLetters) :
    writeZoned t z tokens = write t tokens := by
  refine List.flatMap_congr fun token htoken => ?_
  unfold Token.writeZoned
  split
  · next count => exact absurd (h 'Z' (mem_letters_iff.mpr ⟨count, htoken⟩)) (by decide)
  · next count => exact absurd (h 'X' (mem_letters_iff.mpr ⟨count, htoken⟩)) (by decide)
  · rfl

theorem IsWritable.resolve_withOffset (ht : IsWritable t) {r : Reading} (hr : r.dateTime = .ok t)
    (z : WrittenOffset) (hoffset : hasLetter ['Z', 'X'] tokens = true) (pattern : String)
    (steps : List Step) (zone : Zone) :
    Format.resolve ⟨pattern, tokens, steps⟩ zone (r.withOffset z.seconds) =
      .ok ((t.seconds - z.seconds) * 1000 + t.nanosecond / 1000000) := by
  have hbound : ¬ 86400 ≤ z.seconds.natAbs := by
    have := z.isOffset_seconds
    simp only [isOffset, decide_eq_true_eq] at this
    omega
  have hknown : (r.withOffset z.seconds).offset = some z.seconds := rfl
  have hdateTime : (r.withOffset z.seconds).dateTime = .ok t := hr
  simp only [Format.resolve, Format.hasOffset, hoffset, if_true, hknown, hdateTime, ok_bind, ge_iff_le,
    if_neg hbound, ht.instant?_eq z.isOffset_seconds]
  rfl

namespace IsComplete

theorem writeZoned_around (h : IsComplete (front ++ back)) (hzone : zone ∈ ['Z', 'X']) (t : DateTime)
    (z : WrittenOffset) (count : Nat) :
    ∃ colon, writeZoned t z (front ++ .letters zone count :: back) =
      write t front ++ (z.write colon ++ write t back) := by
  have hletters : letters (front ++ back) = letters front ++ letters back := List.filterMap_append
  have hwritten : ∀ letter ∈ letters front ++ letters back, letter ∈ writtenLetters :=
    fun letter hletter => h.mem_writtenLetters (hletters ▸ hletter)
  have hsplit : writeZoned t z (front ++ .letters zone count :: back) =
      write t front ++ (Token.writeZoned t z (.letters zone count) ++ write t back) := by
    obtain ⟨hfront, hback⟩ := List.forall_mem_append.mp hwritten
    rw [← writeZoned_eq_write (z := z) hfront, ← writeZoned_eq_write (z := z) hback]
    simp only [writeZoned, List.flatMap_append, List.flatMap_cons]
  rw [hsplit]
  simp only [List.mem_cons, List.not_mem_nil, or_false] at hzone
  rcases hzone with rfl | rfl
  · exact ⟨false, rfl⟩
  · exact ⟨decide (2 < count), rfl⟩

/-- A complete pattern around the run of an offset is understood. -/
theorem exists_compile_around (h : IsComplete (front ++ back)) (hzone : zone ∈ ['Z', 'X'])
    {pattern : String} (hspells : Spells (front ++ .letters zone count :: back) pattern.toList) :
    ∃ first later, front.mapM (Token.steps (hasLetter ['a'] (front ++ back))) = .ok first ∧
      back.mapM (Token.steps (hasLetter ['a'] (front ++ back))) = .ok later ∧
      Format.compile pattern = .ok ⟨pattern, front ++ .letters zone count :: back,
        first.flatten ++ .read .offset :: later.flatten⟩ := by
  obtain ⟨digits, hdigits⟩ := h.exists_fraction
  -- the steps do not depend on the date-time, so any will do
  obtain ⟨first, later, hfirst, hlater, -⟩ :=
    reads_around_offset (IsWritable.epoch.shortened _) (h.isReadable hdigits)
  have hown : Token.steps (hasLetter ['a'] (front ++ back)) (.letters zone count) =
      .ok [.read .offset] := by
    simp only [List.mem_cons, List.not_mem_nil, or_false] at hzone
    rcases hzone with rfl | rfl <;> rfl
  have hsteps : (front ++ .letters zone count :: back).mapM
      (Token.steps (hasLetter ['a'] (front ++ .letters zone count :: back))) =
        .ok (first ++ [.read .offset] :: later) := by
    rw [hasLetter_around hzone ['a'] (by decide), List.mapM_append, List.mapM_cons, hfirst, hown, hlater]
    rfl
  have hday : 'd' ∈ letters (front ++ .letters zone count :: back) := by
    obtain ⟨other, hmem⟩ := mem_letters_iff.mp (h.mem_letters 'd' (by decide))
    exact mem_letters_iff.mpr
      ⟨other, List.mem_append.mpr ((List.mem_append.mp hmem).imp_right (List.mem_cons_of_mem _))⟩
  have hcompile := hspells.compile_eq_ok hday hsteps
  rw [List.flatten_append, List.flatten_cons, List.singleton_append] at hcompile
  exact ⟨first, later, hfirst, hlater, hcompile⟩

theorem known_around (h : IsComplete (front ++ back)) (hzone : zone ∈ ['Z', 'X']) (count : Nat)
    (pattern : String) (steps : List Step) (year : Int) :
    Format.known ⟨pattern, front ++ .letters zone count :: back, steps⟩ year = told t [] := by
  rw [← h.known_eq (t := t) pattern steps year]
  simp only [Format.known, Format.hasDate, Format.hasYear,
    hasLetter_around hzone ['y', 'M', 'd'] (by decide), hasLetter_around hzone ['y'] (by decide)]
  rfl

/-- **What is written along a complete pattern around an offset is parsed**, in every zone. -/
theorem parse_around (h : IsComplete (front ++ back)) (hzone : zone ∈ ['Z', 'X'])
    (hyear : .letters 'y' 2 ∉ front ++ back) {first later : List (List Step)}
    (hfirst : front.mapM (Token.steps (hasLetter ['a'] (front ++ back))) = .ok first)
    (hlater : back.mapM (Token.steps (hasLetter ['a'] (front ++ back))) = .ok later)
    (ht : IsWritable t) (z : WrittenOffset) (pattern : String) (almanac : Almanac) :
    Format.parse ⟨pattern, front ++ .letters zone count :: back,
        first.flatten ++ .read .offset :: later.flatten⟩ almanac
        (String.ofList (writeZoned t z (front ++ .letters zone count :: back))) =
      .ok ((t.seconds - z.seconds) * 1000 + t.nanosecond / 1000000) := by
  obtain ⟨digits, hdigits⟩ := h.exists_fraction
  -- digits of the fraction that are not written do not matter
  have hfits := ht.shortened (fractionDigits digits)
  obtain ⟨first', later', hfirst', hlater', hreads⟩ := reads_around_offset hfits (h.isReadable hdigits)
  obtain rfl : first = first' := Except.ok.inj (hfirst.symm.trans hfirst')
  obtain rfl : later = later' := Except.ok.inj (hlater.symm.trans hlater')
  obtain ⟨colon, hwritten⟩ := h.writeZoned_around hzone t z count
  have hscan := (hreads z colon).trimmed
  rw [← trim_eq_trimStart_trimEnd,
    ht.write_shorten fun other hother => hdigits other (List.mem_append_left _ hother),
    ht.write_shorten fun other hother => hdigits other (List.mem_append_right _ hother),
    ← hwritten] at hscan
  have hsuffices : Suffices (shorten (fractionDigits digits) t) (directives (front ++ back)).reverse :=
    h.suffices_directives (fun hshort => absurd hshort hyear) fun d hd => List.mem_reverse.mpr hd
  have hoffset : hasLetter ['Z', 'X'] (front ++ .letters zone count :: back) = true :=
    hasLetter_iff.mpr ⟨zone, hzone, mem_letters_iff.mpr ⟨count, List.mem_append_right _ List.mem_cons_self⟩⟩
  have hresolve := hfits.resolve_withOffset (told_dateTime hfits hsuffices) z hoffset pattern
    (first.flatten ++ .read .offset :: later.flatten) almanac.zone
  have hmillis : ((shorten (fractionDigits digits) t).nanosecond : Int) / 1000000 =
      t.nanosecond / 1000000 := by exact_mod_cast shorten_millis digits t
  rw [hmillis, show (shorten (fractionDigits digits) t).seconds = t.seconds from rfl] at hresolve
  have hknown := h.known_around (t := shorten (fractionDigits digits) t) hzone count pattern
    (first.flatten ++ .read .offset :: later.flatten) almanac.year
  unfold directives at hresolve
  simp only [Format.parse, hknown, String.toList_ofList, hscan, hresolve]

end IsComplete

/-- **A pattern that shows every part of a date-time and its offset once is understood, and what is
written along it is parsed to the instant in milliseconds**: the date-time as one of universal time, less
the offset. The zone of the local clock plays no part, even where that clock skips the date-time. -/
theorem compile_parse_writeZoned {pattern : String} {tokens : List Token}
    (hspells : Spells tokens pattern.toList) (hshows : ShowsZonedMoment tokens)
    (hyear : .letters 'y' 2 ∉ tokens) :
    ∃ format, Format.compile pattern = .ok format ∧
      ∀ (t : DateTime) (z : WrittenOffset), t.IsCivil → 0 ≤ t.date.year → t.date.year ≤ 9999 →
      ∀ almanac : Almanac, format.parse almanac (String.ofList (writeZoned t z tokens)) =
        .ok ((t.seconds - z.seconds) * 1000 + t.nanosecond / 1000000) := by
  obtain ⟨front, zone, count, back, rfl, hzone, hcomplete⟩ := hshows.exists_split
  obtain ⟨first, later, hfirst, hlater, hcompile⟩ := hcomplete.exists_compile_around hzone hspells
  have hyear' : .letters 'y' 2 ∉ front ++ back := fun hmem => hyear <|
    List.mem_append.mpr ((List.mem_append.mp hmem).imp_right (List.mem_cons_of_mem _))
  exact ⟨_, hcompile, fun t z hcivil hleast hmost almanac =>
    hcomplete.parse_around hzone hyear' hfirst hlater ⟨hcivil, hleast, hmost⟩ z pattern almanac⟩

/-- The offset stands in the middle, and the local clock skips the hour. -/
theorem compile_parse_writeZoned_skippedHour :
    Zone.eastern.offsetOfLocal? ⟨⟨2024, 3, 10⟩, 2, 30, 15, 250999999⟩ = none ∧
      ∃ format, Format.compile "HH:mmXXX dd.MM.yyyy ss,SSS" = .ok format ∧
        format.parse ⟨Zone.eastern, 2024⟩ "02:30-03:30 10.03.2024 15,250" = .ok 1710050415250 := by
  have hspells : Spells [.letters 'H' 2, .literal [':'], .letters 'm' 2, .letters 'X' 3, .literal [' '],
      .letters 'd' 2, .literal ['.'], .letters 'M' 2, .literal ['.'], .letters 'y' 4, .literal [' '],
      .letters 's' 2, .literal [','], .letters 'S' 3] "HH:mmXXX dd.MM.yyyy ss,SSS".toList :=
    tokenize_eq_ok_iff.mp rfl
  obtain ⟨format, hcompile, hparse⟩ :=
    compile_parse_writeZoned hspells ⟨'X', by decide, by decide⟩ (by decide)
  have hparsed := hparse ⟨⟨2024, 3, 10⟩, 2, 30, 15, 250999999⟩ { west := true, hours := 3, minutes := 30 }
    (by decide) (by decide) (by decide) ⟨Zone.eastern, 2024⟩
  rw [show (DateTime.seconds ⟨⟨2024, 3, 10⟩, 2, 30, 15, 250999999⟩ -
    WrittenOffset.seconds { west := true, hours := 3, minutes := 30 }) * 1000 +
      ((250999999 : Nat) : Int) / 1000000 = 1710050415250 by decide +kernel] at hparsed
  exact ⟨by decide +kernel, format, hcompile, hparsed⟩

end LogIntake.Timestamp
