import LogIntake.Proofs.Timestamp.Scanning

/-!
# Written timestamps are read

* `told`: what is known of a date-time once some of its parts have been read.
* `scan_numberPart`: two digits tell their part, if their value lies between the bounds.
* `scan_letters`: reading a run of letters tells its part.
* `Reads`: the outcome of steps on a text, also without the white space at its start.
* `scan_consStep`, `reads_literal`: fixed texts, whose blanks may have been trimmed.
* `reads_write_append`: what is written along tokens is read, whatever becomes of the rest.
* **`reads_write`**: a date-time that is written along tokens is read by their steps.
-/

namespace LogIntake.Timestamp

open Calendar Text

/-! ## What is known -/

/-- The directive tells the month. -/
@[simp] def Directive.tellsMonth : Directive → Bool
  | .month | .monthName _ => true
  | _ => false

/-- The directive tells the half of the day. -/
@[simp] def Directive.tellsHalf : Directive → Bool
  | .hour | .half => true
  | _ => false

/-- The directive tells the hour of the half of the day. -/
@[simp] def Directive.tellsHourOfHalf : Directive → Bool
  | .hour | .hourOfHalf => true
  | _ => false

/-- The directive tells the fraction of the second. -/
@[simp] def Directive.tellsFraction : Directive → Bool
  | .fraction _ => true
  | _ => false

/-- The directive tells the day of the week. -/
@[simp] def Directive.tellsWeekday : Directive → Bool
  | .weekdayName _ => true
  | _ => false

/-- What is known of a date-time once some directives have been read. -/
def told (t : DateTime) (ds : List Directive) : Reading where
  year := if .year ∈ ds then some t.date.year else none
  yearOfCentury := if .yearOfCentury ∈ ds then some (t.date.year.toNat % 100) else none
  month := if ds.any Directive.tellsMonth then some t.date.month else none
  day := if .day ∈ ds then some t.date.day else none
  half := if ds.any Directive.tellsHalf then some (t.hour / 12) else none
  hourOfHalf := if ds.any Directive.tellsHourOfHalf then some (t.hour % 12) else none
  minute := if .minute ∈ ds then some t.minute else none
  second := if .second ∈ ds then some t.second else none
  nanosecond := if ds.any Directive.tellsFraction then some t.nanosecond else none
  weekday := if ds.any Directive.tellsWeekday then some t.date.weekday else none
  offset := none

/-- A part that is read again is the same. -/
theorem settle_ite {α : Type} [DecidableEq α] (p : Prop) [Decidable p] (a : α) :
    settle (if p then some a else none) a = .ok (some a) := by
  by_cases hp : p <;> simp [settle, hp]

variable {t : DateTime} {marks : Bool} {count : Nat} {letter : Char}

/-- A part of a date-time that is shown with two digits, with the bounds in which it is read. -/
structure NumberPart where
  directive : Directive
  least : Nat
  most : Nat
  value : Nat

/-- The value is one that is read. -/
def NumberPart.IsInRange (p : NumberPart) : Prop :=
  p.least ≤ p.value ∧ p.value ≤ p.most

/-- The parts of a date-time that are shown with two digits as they are. -/
def numberParts (t : DateTime) : List NumberPart :=
  [⟨.month, 1, 12, t.date.month⟩, ⟨.day, 1, 31, t.date.day⟩, ⟨.hour, 0, 23, t.hour⟩,
    ⟨.minute, 0, 59, t.minute⟩, ⟨.second, 0, 60, t.second⟩]

variable {p : NumberPart} {ds : List Directive}

theorem NumberPart.IsInRange.checkRange_eq_ok (h : p.IsInRange) :
    checkRange p.least p.most p.value = .ok () :=
  Timestamp.checkRange_eq_ok (Int.ofNat_le.mpr h.1) (Int.ofNat_le.mpr h.2)

/-- Two digits tell their part, if their value is one that is read. -/
theorem scan_numberPart (hp : p ∈ numberParts t) (hvalue : p.value < 100) (rest : List Char) :
    p.directive.scan (told t ds) (paddedDigits 2 p.value ++ rest) =
      (checkRange p.least p.most p.value).map fun _ => (told t (p.directive :: ds), rest) := by
  simp only [numberParts, List.mem_cons, List.not_mem_nil, or_false] at hp
  rcases hp with rfl | rfl | rfl | rfl | rfl <;>
    simp only [Directive.scan, scanPart_paddedDigits _ _ hvalue]
  all_goals
    generalize checkRange _ _ _ = range
    cases range with
    | error e => rfl
    | ok u =>
      simp only [Except.map, ok_bind, told, settle_ite]
      simp [pure, Except.pure]

theorem scan_numberPart_eq_ok (hp : p ∈ numberParts t) (hvalue : p.value < 100) (h : p.IsInRange)
    (rest : List Char) : p.directive.scan (told t ds) (paddedDigits 2 p.value ++ rest) =
      .ok (told t (p.directive :: ds), rest) := by
  rw [scan_numberPart hp hvalue, h.checkRange_eq_ok]
  rfl

/-- Reading a run of letters tells its part of the date-time. An hour of the half day is read as one
only where the half is marked, and a fraction is read as far as it is written. -/
theorem scan_letters (h : IsWritable t) (hletter : letter ∈ writtenLetters)
    (hhalf : letter = 'h' → marks = true)
    (hfraction : letter = 'S' → 10 ^ (9 - fractionDigits count) ∣ t.nanosecond) :
    ∃ d, Directive.ofLetters? marks letter count = some d ∧ ∀ ds rest,
      d.scan (told t ds) (writeLetters t count letter ++ rest) = .ok (told t (d :: ds), rest) := by
  have hmonth_pos := h.civil.exists_date.month_pos
  have hmonth := h.civil.exists_date.month_le
  have hday_pos := h.civil.exists_date.day_pos
  have hday := h.day_le
  have hhour := h.civil.hour
  have hminute := h.civil.minute
  have hsecond := h.civil.second
  simp only [writtenLetters, List.mem_cons, List.not_mem_nil, or_false] at hletter
  rcases hletter with rfl | rfl | rfl | rfl | rfl | rfl | rfl | rfl | rfl | rfl <;>
    refine ⟨_, rfl, fun ds rest => ?_⟩ <;> simp only [writeLetters]
  · by_cases htwo : count = 2
    · have hlt : t.date.year.toNat % 100 < 100 := Nat.mod_lt _ (by decide)
      rw [if_pos htwo, if_pos htwo]
      simp only [Directive.scan, scanPart_padded hlt (Nat.zero_le _) (Nat.le_of_lt_succ hlt), ok_bind,
        told, settle_ite]
      simp [pure, Except.pure]
    · have hyear : (t.date.year.toNat : Int) = t.date.year := Int.toNat_of_nonneg h.year_nonneg
      have hrange : checkRange (-2147483648) 2147483647 t.date.year = .ok () :=
        checkRange_eq_ok (by have := h.year_nonneg; omega) (by have := h.year_le; omega)
      rw [if_neg htwo, if_neg htwo]
      simp only [Directive.scan, scanYear_padded h.year_lt, ok_bind, hyear, hrange, told, settle_ite]
      simp [pure, Except.pure]
  · by_cases htwo : count ≤ 2
    · rw [if_pos htwo, if_pos htwo]
      exact scan_numberPart_eq_ok (p := ⟨.month, 1, 12, t.date.month⟩) (by simp [numberParts])
        (show t.date.month < 100 by omega) ⟨hmonth_pos, hmonth⟩ rest
    · rw [if_neg htwo, if_neg htwo]
      simp only [Directive.scan, scanName_written areTold_monthNames h.month_index, ok_bind,
        Nat.sub_add_cancel hmonth_pos, told, settle_ite]
      simp [pure, Except.pure]
  · exact scan_numberPart_eq_ok (p := ⟨.day, 1, 31, t.date.day⟩) (by simp [numberParts])
      (show t.date.day < 100 by omega) ⟨hday_pos, hday⟩ rest
  · have hweekday : Fin.ofNat 7 t.date.weekday.val = t.date.weekday :=
      Fin.ext (Nat.mod_eq_of_lt t.date.weekday.isLt)
    simp only [Directive.scan, scanName_written areTold_weekdayNames t.date.weekday.isLt, ok_bind,
      hweekday, told, settle_ite]
    simp [pure, Except.pure]
  · exact scan_numberPart_eq_ok (p := ⟨.hour, 0, 23, t.hour⟩) (by simp [numberParts])
      (show t.hour < 100 by omega) ⟨Nat.zero_le _, Nat.le_of_lt_succ hhour⟩ rest
  · have hhalf' : ((t.hour + 11) % 12 + 1) % 12 = t.hour % 12 := by omega
    rw [hhalf rfl]
    simp only [if_true, Directive.scan, scanPart_padded (show (t.hour + 11) % 12 + 1 < 100 by omega)
      (show 1 ≤ (t.hour + 11) % 12 + 1 by omega) (show (t.hour + 11) % 12 + 1 ≤ 12 by omega), ok_bind,
      hhalf', told, settle_ite]
    simp [pure, Except.pure]
  · simp only [Directive.scan, scanHalf_written t.hour hhour, ok_bind, told, settle_ite]
    simp [pure, Except.pure]
  · exact scan_numberPart_eq_ok (p := ⟨.minute, 0, 59, t.minute⟩) (by simp [numberParts])
      (show t.minute < 100 by omega) ⟨Nat.zero_le _, Nat.le_of_lt_succ hminute⟩ rest
  · exact scan_numberPart_eq_ok (p := ⟨.second, 0, 60, t.second⟩) (by simp [numberParts])
      (show t.second < 100 by omega) ⟨Nat.zero_le _, Nat.le_of_lt hsecond⟩ rest
  · have hwhole : t.nanosecond / 10 ^ (9 - fractionDigits count) * 10 ^ (9 - fractionDigits count) =
        t.nanosecond := Nat.div_mul_cancel (hfraction rfl)
    have hscan := scanFraction_padded (fractionDigits_bounds count).2 h.civil.nanosecond
    rw [hwhole] at hscan
    change Directive.scan (.fraction (fractionDigits count)) _ _ = _
    simp only [Directive.scan, hscan, ok_bind, told, settle_ite]
    simp [pure, Except.pure]

/-! ## Fixed texts -/

/-- Steps end in an outcome on a text, and also on what is left when white space at its start has been
trimmed. -/
structure Reads (steps : List Step) (r : Reading) (outcome : Except ScanError Reading)
    (s : List Char) : Prop where
  whole : scan steps r s = outcome
  trimmed : scan steps r (trimStart s) = outcome

variable {steps later : List Step} {r : Reading} {outcome : Except ScanError Reading} {c : Char}
  {s text : List Char}

/-- A text that is expected is passed over. -/
theorem scan_expect_append (text s : List Char) :
    scan (.expect text :: steps) r (text ++ s) = scan steps r s := by
  have hsize : ¬ Utf8.size (text ++ s) < Utf8.size text := by
    rw [Utf8.size_append]
    omega
  simp [scan, Step.run, hsize]

/-- The first character of a text that is expected can be set apart. -/
theorem scan_expect_uncons : scan (.expect (c :: text) :: steps) r (c :: s) =
    scan (.expect text :: steps) r s := by
  obtain ⟨n, hsize⟩ : ∃ n, ∀ u, Utf8.size (c :: u) = n + Utf8.size u := ⟨_, Utf8.size_append [c]⟩
  simp [scan, Step.run, hsize]

theorem scan_blanks : scan (.blanks :: steps) r s = scan steps r (trimStart s) := rfl

/-- A character that is no white space is expected in front of what follows. -/
theorem scan_consStep (hc : isBlank c = false) :
    scan (consStep c steps ++ later) r (c :: s) = scan (steps ++ later) r s := by
  have hblank : ¬ isBlank c = true := by rw [hc]; decide
  have halone : scan (.expect [c] :: (steps ++ later)) r (c :: s) = scan (steps ++ later) r s :=
    scan_expect_append [c] s
  unfold consStep
  rw [if_neg hblank]
  rcases steps with _ | ⟨text | _ | d, steps⟩
  · exact halone
  · dsimp only
    split
    · exact halone
    · exact scan_expect_uncons
  · exact halone
  · exact halone

/-- A blank lets white space be passed over, be there some or none. -/
theorem scan_consStep_blank (hc : isBlank c = true) :
    scan (consStep c steps ++ later) r s = scan (steps ++ later) r (trimStart s) := by
  unfold consStep
  rw [if_pos hc]
  rcases steps with _ | ⟨text | _ | d, steps⟩
  · rfl
  · rfl
  · rw [List.cons_append, scan_blanks, scan_blanks, trimStart_trimStart]
  · rfl

/-- A fixed text is read by its steps, also at an end of the text that is trimmed. -/
theorem reads_literal (text : List Char) (h : Reads later r outcome (trimEnd s)) :
    Reads (text.foldr consStep [] ++ later) r outcome (trimEnd (text ++ s)) := by
  induction text with
  | nil => exact h
  | cons c text ih =>
    rw [List.foldr_cons, List.cons_append]
    cases hc : isBlank c with
    | false =>
      have hscan := (scan_consStep hc).trans ih.whole
      rw [trimEnd_cons_of_not_blank hc]
      exact ⟨hscan, by rwa [trimStart_cons_of_not_blank hc]⟩
    | true =>
      have htrimmed : ∀ u, trimStart u = trimStart (trimEnd (text ++ s)) →
          scan (consStep c (text.foldr consStep []) ++ later) r u = outcome := fun u hu => by
        rw [scan_consStep_blank hc, hu]
        exact ih.trimmed
      rw [trimEnd_cons_of_blank hc]
      split
      · next hempty =>
        rw [List.isEmpty_iff] at hempty
        exact ⟨htrimmed _ (by rw [hempty]), htrimmed _ (by rw [hempty]; rfl)⟩
      · exact ⟨htrimmed _ (trimStart_cons_of_blank hc),
          htrimmed _ (by rw [trimStart_trimStart, trimStart_cons_of_blank hc])⟩

/-! ## Tokens -/

/-- The directive that a token stands for, if it is a run of letters that is understood. -/
def Token.directive? (marks : Bool) : Token → Option Directive
  | .letters letter count => Directive.ofLetters? marks letter count
  | .literal _ => none

theorem Token.steps_letters {d : Directive}
    (h : Directive.ofLetters? marks letter count = some d) :
    Token.steps marks (.letters letter count) = .ok [.read d] := by
  simp only [Token.steps, h]

/-- What makes a run of letters readable: its letter is one that is written, an hour of the half day
stands beside a mark for the half, and the fraction is written as far as it goes. -/
def Token.IsReadable (t : DateTime) (marks : Bool) : Token → Prop
  | .letters letter count => letter ∈ writtenLetters ∧ (letter = 'h' → marks = true) ∧
      (letter = 'S' → 10 ^ (9 - fractionDigits count) ∣ t.nanosecond)
  | .literal _ => True

/-- What is written along tokens is read by their steps and tells all its parts, whatever the outcome of
what follows. -/
theorem reads_write_append (h : IsWritable t) (tokens : List Token)
    (hread : ∀ token ∈ tokens, token.IsReadable t marks) :
    ∃ steps, tokens.mapM (Token.steps marks) = .ok steps ∧ ∀ ds later outcome s,
      Reads later (told t ((tokens.filterMap (Token.directive? marks)).reverse ++ ds)) outcome
        (trimEnd s) →
      Reads (steps.flatten ++ later) (told t ds) outcome (trimEnd (write t tokens ++ s)) := by
  induction tokens with
  | nil => exact ⟨[], rfl, fun ds later outcome s hlater => hlater⟩
  | cons token tokens ih =>
    obtain ⟨htoken, htokens⟩ := List.forall_mem_cons.mp hread
    obtain ⟨others, hothers, hreads⟩ := ih htokens
    have hsteps : ∀ first, token.steps marks = .ok first →
        (token :: tokens).mapM (Token.steps marks) = .ok (first :: others) := fun first hfirst => by
      rw [List.mapM_cons, hfirst, hothers]
      rfl
    have hwrite : ∀ s, write t (token :: tokens) ++ s = token.write t ++ (write t tokens ++ s) :=
      fun s => List.append_assoc ..
    cases token with
    | letters letter count =>
      obtain ⟨hletter, hhalf, hfraction⟩ := htoken
      obtain ⟨d, hd, hscan⟩ := scan_letters h hletter hhalf hfraction
      have hsolid := h.isSolid_writeLetters count hletter
      refine ⟨[.read d] :: others, hsteps _ (Token.steps_letters hd),
        fun ds later outcome s hlater => ?_⟩
      have hdirective : (Token.letters letter count).directive? marks = some d := hd
      rw [List.filterMap_cons_some hdirective, List.reverse_cons, List.append_assoc] at hlater
      have hwritten : trimEnd (write t (.letters letter count :: tokens) ++ s) =
          writeLetters t count letter ++ trimEnd (write t tokens ++ s) := by
        rw [hwrite]
        exact trimEnd_append_of_solid hsolid.1 hsolid.2
      have hwhole : scan (([.read d] :: others).flatten ++ later) (told t ds)
          (writeLetters t count letter ++ trimEnd (write t tokens ++ s)) = outcome := by
        rw [List.flatten_cons, List.singleton_append, List.cons_append, scan, Step.run, hscan]
        exact (hreads (d :: ds) later outcome s hlater).whole
      rw [hwritten]
      exact ⟨hwhole, by rwa [trimStart_append_of_solid hsolid.1 hsolid.2]⟩
    | literal text =>
      refine ⟨text.foldr consStep [] :: others, hsteps _ rfl, fun ds later outcome s hlater => ?_⟩
      rw [hwrite, List.flatten_cons, List.append_assoc]
      exact reads_literal text (hreads ds later outcome s hlater)

/-- **A date-time that is written along tokens is read by their steps**, with or without the white
space around it, and tells all its parts. -/
theorem reads_write (h : IsWritable t) (tokens : List Token)
    (hread : ∀ token ∈ tokens, token.IsReadable t marks) :
    ∃ steps, tokens.mapM (Token.steps marks) = .ok steps ∧
      ∀ ds, Reads steps.flatten (told t ds)
        (.ok (told t ((tokens.filterMap (Token.directive? marks)).reverse ++ ds)))
        (trimEnd (write t tokens)) := by
  obtain ⟨steps, hsteps, hreads⟩ := reads_write_append h tokens hread
  refine ⟨steps, hsteps, fun ds => ?_⟩
  have hend := hreads ds [] _ [] ⟨rfl, rfl⟩
  rwa [List.append_nil, List.append_nil] at hend

end LogIntake.Timestamp
