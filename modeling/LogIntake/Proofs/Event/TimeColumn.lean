import LogIntake.Event.Basic
import LogIntake.Proofs.Timestamp.Stamp

/-!
# The time column shows what was read

* `render_timeColumn`, `render_timeColumn_sign`: the time column of a moment.
* `Event.preview_eq`: the time column stands first in a preview.
* `momentAt?_eq`, `never_shown_iff`: what clocks show at the instant that was read.
* `Timestamp.Format.ShowsWhatItReads`: a text is refused for a reason, or shown as it was read.
* `showsWhatItReads_iff`: whether it is depends on the offsets of the zone alone.
* **`shown_as_read_iff`**: in an orderly year all texts are shown as they were read, but for the lost
  second.
-/

namespace LogIntake

open Calendar Timestamp

/-! ## The column -/

variable {m : Moment} {t : DateTime} {zone : Zone}

theorem writeNumber_zeros (width n : Nat) :
    writeNumber .zeros false width n = paddedDigits width n := by
  have hnonneg : ¬ (n : Int) < 0 := by omega
  simp only [writeNumber, if_neg hnonneg, Bool.false_eq_true, if_false, List.length_nil, Nat.sub_zero,
    Int.natAbs_natCast, List.nil_append]
  rfl

theorem render_year (m : Moment) : Item.render m (.number .year .zeros) =
    writeNumber .zeros (!(decide (0 ≤ m.clock.date.year) && decide (m.clock.date.year ≤ 9999))) 4
      m.clock.date.year := rfl

/-- A moment of a year with four digits is shown as a stamp. -/
theorem render_timeColumn (hfirst : 0 ≤ m.clock.date.year) (hlast : m.clock.date.year ≤ 9999)
    (hnanosecond : m.clock.nanosecond < 1000000000) :
    m.render timeColumn = String.ofList (stamp '.' m.clock) := by
  have hyear : Item.render m (.number .year .zeros) = paddedDigits 4 m.clock.date.year.toNat := by
    rw [render_year, ← writeNumber_zeros, Int.toNat_of_nonneg hfirst, decide_eq_true hfirst,
      decide_eq_true hlast]
    rfl
  have hmonth : Item.render m (.number .month .zeros) = paddedDigits 2 m.clock.date.month :=
    writeNumber_zeros 2 _
  have hday : Item.render m (.number .day .zeros) = paddedDigits 2 m.clock.date.day :=
    writeNumber_zeros 2 _
  have hhour : Item.render m (.number .hour .zeros) = paddedDigits 2 m.clock.hour :=
    writeNumber_zeros 2 _
  have hminute : Item.render m (.number .minute .zeros) = paddedDigits 2 m.clock.minute :=
    writeNumber_zeros 2 _
  have hsecond : Item.render m (.number .second .zeros) = paddedDigits 2 m.clock.second := by
    have hwhole : (m.clock.second : Int) + m.clock.nanosecond / 1000000000 = m.clock.second := by
      omega
    change writeNumber .zeros false 2 ((m.clock.second : Int) + m.clock.nanosecond / 1000000000) = _
    rw [hwhole, writeNumber_zeros]
  have hfraction : Item.render m (.fraction true 3) =
      '.' :: (paddedDigits 9 m.clock.nanosecond).take 3 := by
    simp only [Item.render, writeFraction, Nat.mod_eq_of_lt hnanosecond, if_true]
    rfl
  have hliteral : ∀ c, Item.render m (.literal c) = [c] := fun _ => rfl
  unfold Moment.render timeColumn isoDate clockTime stamp Fields.join Fields.of
  simp only [List.flatMap_cons, List.flatMap_nil, hyear, hmonth, hday, hhour, hminute, hsecond,
    hfraction, hliteral, List.cons_append, List.nil_append, List.append_nil]

/-- Other years are shown with a sign in front. -/
theorem render_timeColumn_sign (h : ¬ (0 ≤ m.clock.date.year ∧ m.clock.date.year ≤ 9999)) :
    ∃ sign rest, (m.render timeColumn).toList = sign :: rest ∧ Text.isAsciiDigit sign = false := by
  have hsigned : (!(decide (0 ≤ m.clock.date.year) && decide (m.clock.date.year ≤ 9999))) = true := by
    rw [Bool.not_eq_true', Bool.and_eq_false_iff, decide_eq_false_iff_not, decide_eq_false_iff_not]
    exact not_and_or.mp h
  obtain ⟨later, hlater⟩ : ∃ later, (m.render timeColumn).toList =
      Item.render m (.number .year .zeros) ++ later := ⟨_, String.toList_ofList⟩
  rw [hlater, render_year, hsigned]
  simp only [writeNumber, if_true]
  split_ifs
  · exact ⟨'-', _, rfl, by decide⟩
  · exact ⟨'+', _, rfl, by decide⟩

theorem render_timeColumn_ne : m.render timeColumn ≠ "" := by
  simp [Moment.render, timeColumn, isoDate, Item.render]

/-! ## Previews -/

/-- The time column stands first in a preview that has one. -/
theorem Event.preview_eq (e : Event) {timeFormat : List Item} {detail : Nat} (hdetail : 1 ≤ detail)
    (hm : e.localTime? zone = some m) (hne : m.render timeFormat ≠ "") :
    ∃ rest, e.preview zone timeFormat detail = "[" ++ m.render timeFormat ++ "] " ++ rest := by
  obtain ⟨later, rfl⟩ := Nat.exists_eq_add_of_le' hdetail
  have hshown : ((e.columns zone timeFormat).take (later + 1)).filter (· ≠ "") =
      m.render timeFormat ::
        (([e.level, e.logger, e.thread.getD ""].take later).filter (· ≠ "")) := by
    simp only [columns, hm, Option.map_some, Option.getD_some, List.take_succ_cons]
    exact List.filter_cons_of_pos (decide_eq_true hne)
  have hclose : "[" ++ m.render timeFormat ++ "]" ++ " " = "[" ++ m.render timeFormat ++ "] " :=
    String.append_assoc
  simp only [preview, hshown, List.map_cons, List.cons_append]
  rw [String.intercalate_cons_of_ne_nil (List.append_ne_nil_of_right_ne_nil _ (List.cons_ne_nil _ _)),
    hclose]
  exact ⟨_, rfl⟩

/-! ## What is read is shown -/

/-- A text is refused only if its digits spell no civil date-time or one that clocks never show;
otherwise an event at the instant that is read has a local time, and its previews show the digits of the
text. -/
def Timestamp.Format.ShowsWhatItReads (format : Format) (almanac : Almanac) (text : String) : Prop :=
  match format.parse almanac text with
  | .error _ => ¬ (clockOf text.toList).IsCivil ∨
      ∀ millis moment, almanac.zone.momentAt? millis = some moment → moment.clock ≠ clockOf text.toList
  | .ok millis => ∀ e : Event, e.timestamp = some millis →
      (e.localTime? almanac.zone).isSome ∧ ∀ detail, 1 ≤ detail →
        ∃ rest, e.preview almanac.zone timeColumn detail =
          "[" ++ text.map (fun c => if c = ',' then '.' else c) ++ "] " ++ rest

/-- Clocks that show the digits of a stamp show its date-time. -/
theorem clock_eq_of_prefix (h : IsSpelled t) {seconds : Int} {nanosecond : Nat}
    (hclock : m.clock = DateTime.ofSeconds seconds nanosecond) (hnanosecond : nanosecond < 10 ^ 9)
    (hmillis : 10 ^ 6 ∣ nanosecond) {later rest : List Char}
    (hsame : (m.render timeColumn).toList ++ later = stamp '.' t ++ rest) : m.clock = t := by
  by_cases hyear : 0 ≤ m.clock.date.year ∧ m.clock.date.year ≤ 9999
  · have hspelled : IsSpelled m.clock := by
      rw [hclock] at hyear ⊢
      exact isSpelled_ofSeconds hyear.1 hyear.2 hnanosecond hmillis
    rw [render_timeColumn hyear.1 hyear.2 hspelled.nanosecond, String.toList_ofList] at hsame
    have hstamp := List.append_inj_left hsame (by rw [length_stamp hspelled, length_stamp h])
    have hmark : Text.isAsciiDigit '.' = false := by decide
    rw [← hspelled.clockOf_stamp hmark, hstamp, h.clockOf_stamp hmark]
  · -- a digit is no sign
    obtain ⟨sign, shown, hshown, hsign⟩ := render_timeColumn_sign hyear
    obtain ⟨digit, year, hdigit⟩ :=
      List.exists_cons_of_ne_nil (h.areNumerals.year.isSolid (by decide)).1
    have hfirst := h.areNumerals.year.digits digit (by rw [hdigit]; exact List.mem_cons_self)
    rw [hshown, stamp, Fields.join, hdigit] at hsame
    obtain rfl : sign = digit := (List.cons.inj hsame).1
    exact absurd hfirst (by rw [hsign]; decide)

section Shown

variable (h : IsSpelled t) (hcivil : t.IsCivil)
include h hcivil

/-- What clocks show at the instant that an offset gives to a date-time. -/
theorem momentAt?_eq (zone : Zone) {offset : Int} (hoffset : isOffset offset = true) :
    zone.momentAt? ((t.seconds - offset) * 1000 + t.nanosecond / 1000000) =
      if isOffset (zone.offsetAt (t.seconds - offset)) then
        some ⟨.ofSeconds (t.seconds - offset + zone.offsetAt (t.seconds - offset)) t.nanosecond,
          zone.offsetAt (t.seconds - offset)⟩
      else none := by
  have hbounds := (h.isWritable hcivil).seconds_bounds
  have hnanosecond := h.nanosecond
  have hmillis := h.millis
  simp only [isOffset, decide_eq_true_eq] at hoffset
  have hsecond : ((t.seconds - offset) * 1000 + (t.nanosecond : Int) / 1000000) / 1000 =
      t.seconds - offset := by omega
  have hfraction : (((t.seconds - offset) * 1000 + (t.nanosecond : Int) / 1000000) % 1000).toNat *
      1000000 = t.nanosecond := by omega
  have hrange : firstMillis ≤ (t.seconds - offset) * 1000 + (t.nanosecond : Int) / 1000000 ∧
      (t.seconds - offset) * 1000 + (t.nanosecond : Int) / 1000000 ≤ lastMillis := by
    unfold firstMillis lastMillis
    omega
  simp only [Zone.momentAt?, hsecond, hfraction, hrange.1, hrange.2, decide_true, Bool.true_and]

/-- Clocks never show a date-time if and only if they never show its seconds. -/
theorem never_shown_iff : (∀ millis moment, zone.momentAt? millis = some moment → moment.clock ≠ t) ↔
    ∀ instant, ¬ zone.Shows instant t.seconds := by
  constructor
  · rintro hnever instant ⟨hoffset, hclock⟩
    have hinstant : t.seconds - zone.offsetAt instant = instant := by omega
    have hmoment := momentAt?_eq h hcivil zone hoffset
    rw [hinstant, if_pos hoffset, hclock] at hmoment
    exact hnever _ _ hmoment hcivil.ofSeconds_seconds
  · rintro hnever millis moment hmoment rfl
    simp only [Zone.momentAt?] at hmoment
    split_ifs at hmoment with hrange
    obtain rfl := Option.some.inj hmoment
    rw [Bool.and_eq_true] at hrange
    exact hnever (millis / 1000) ⟨hrange.2, (DateTime.seconds_ofSeconds _ _).symm⟩

/-- Previews show the digits that were read if and only if clocks show them at the instant. -/
theorem previews_iff {offset : Int} (hoffset : isOffset offset = true) :
    (∀ e : Event, e.timestamp = some ((t.seconds - offset) * 1000 + t.nanosecond / 1000000) →
      (e.localTime? zone).isSome ∧ ∀ detail, 1 ≤ detail → ∃ rest, e.preview zone timeColumn detail =
        "[" ++ String.ofList (stamp '.' t) ++ "] " ++ rest) ↔
    zone.Shows (t.seconds - offset) t.seconds := by
  have hmoment := momentAt?_eq h hcivil zone hoffset
  generalize (t.seconds - offset) * 1000 + (t.nanosecond : Int) / 1000000 = millis at hmoment ⊢
  have hlocal : ∀ e : Event, e.timestamp = some millis →
      e.localTime? zone = zone.momentAt? millis := fun e he => by
    rw [Event.localTime?, he, Option.bind_some]
  constructor
  · intro hshown
    obtain ⟨e, he⟩ : ∃ e : Event, e.timestamp = some millis :=
      ⟨{ timestamp := some millis, source := "", message := "" }, rfl⟩
    obtain ⟨hsome, hpreview⟩ := hshown e he
    have hvalid : isOffset (zone.offsetAt (t.seconds - offset)) = true := by
      by_contra hnot
      rw [hlocal e he, hmoment, if_neg hnot] at hsome
      exact absurd hsome (by decide)
    rw [if_pos hvalid] at hmoment
    obtain ⟨rest, hrest⟩ := hpreview 1 (Nat.le_refl 1)
    obtain ⟨later, hlater⟩ :=
      e.preview_eq (Nat.le_refl 1) ((hlocal e he).trans hmoment) render_timeColumn_ne
    have hsame := congrArg String.toList (hlater.symm.trans hrest)
    simp only [String.toList_append, List.append_assoc, String.toList_ofList] at hsame
    have hclock := clock_eq_of_prefix h rfl h.nanosecond h.millis (List.append_cancel_left hsame)
    have hseconds := DateTime.seconds_ofSeconds
      (t.seconds - offset + zone.offsetAt (t.seconds - offset)) t.nanosecond
    rw [show DateTime.ofSeconds _ t.nanosecond = t from hclock] at hseconds
    exact ⟨hvalid, hseconds.symm⟩
  · rintro ⟨hvalid, hclock⟩ e he
    rw [if_pos hvalid, hclock, hcivil.ofSeconds_seconds] at hmoment
    have hmoment' := (hlocal e he).trans hmoment
    have hwritable := h.isWritable hcivil
    have hrender : Moment.render ⟨t, zone.offsetAt (t.seconds - offset)⟩ timeColumn =
        String.ofList (stamp '.' t) :=
      render_timeColumn hwritable.year_nonneg hwritable.year_le h.nanosecond
    refine ⟨by rw [hmoment']; rfl, fun detail hdetail => ?_⟩
    rw [← hrender]
    exact e.preview_eq hdetail hmoment' render_timeColumn_ne

end Shown

/-- **A text is shown as it was read if and only if its date-time, should it be a civil one, is read
back.** -/
theorem showsWhatItReads_iff (almanac : Almanac) {text : String}
    (h : fits stampMask text.toList = true) (hsecond : (clockOf text.toList).second < 60) :
    stampFormat.ShowsWhatItReads almanac text ↔
      ((clockOf text.toList).IsCivil → almanac.zone.ReadsBack (clockOf text.toList)) := by
  obtain ⟨hspelled, hstamp⟩ := stamp_clockOf h
  unfold Format.ShowsWhatItReads
  generalize clockOf text.toList = t at hspelled hstamp hsecond ⊢
  have htext : text = String.ofList (stamp ',' t) := by rw [hstamp, String.ofList_toList]
  by_cases hcivil : t.IsCivil
  · have hshown : text.map (fun c => if c = ',' then '.' else c) = String.ofList (stamp '.' t) := by
      rw [← String.toList_inj, String.toList_map, ← hstamp, map_stamp hspelled, String.toList_ofList]
    have hparse := parse_stamp_of_civil almanac hspelled hcivil
    rw [← htext] at hparse
    rw [hparse, hshown, forall_prop_of_true hcivil, Zone.ReadsBack]
    cases hoffset : almanac.zone.offsetOfLocal? t with
    | none => exact (or_iff_right (not_not_intro hcivil)).trans (never_shown_iff hspelled hcivil)
    | some offset => exact previews_iff hspelled hcivil (Zone.isOffset_of_offsetOfLocal? hoffset)
  · obtain ⟨e, hparse⟩ := parse_stamp_of_not_civil almanac hspelled hsecond hcivil
    rw [← htext] at hparse
    rw [hparse]
    exact iff_of_true (.inl hcivil) fun h => absurd h hcivil

/-- **Every text in the shape of a stamp is shown as it was read, but for the lost second.** In any zone
it is shown so if and only if its date-time, should it be a civil one, is read back there, and in an
orderly year every civil date-time is, unless a change forward comes first in the year and clocks show
the moment of this change. -/
theorem shown_as_read_iff (almanac : Almanac) {text : String} (h : fits stampMask text.toList = true)
    (hsecond : (clockOf text.toList).second ≤ 59) :
    ∃ format, Format.compile "yyyy-MM-dd HH:mm:ss,SSS" = .ok format ∧
      (format.ShowsWhatItReads almanac text ↔
        ((clockOf text.toList).IsCivil → almanac.zone.ReadsBack (clockOf text.toList))) ∧
      (almanac.zone.IsOrderlyAround (clockOf text.toList).date.year →
        (format.ShowsWhatItReads almanac text ↔
          ¬ ((clockOf text.toList).IsCivil ∧ almanac.zone.IsLostSecond (clockOf text.toList)))) := by
  have hshown := showsWhatItReads_iff almanac h (Nat.lt_succ_of_le hsecond)
  refine ⟨stampFormat, compile_stampFormat, hshown, fun horderly => ?_⟩
  rw [hshown, not_and]
  exact forall_congr' fun hcivil => Zone.readsBack_iff horderly hcivil

/-- An hour that clocks in the east of North America show twice. -/
theorem shown_as_read_twice : ∃ format, Format.compile "yyyy-MM-dd HH:mm:ss,SSS" = .ok format ∧
    format.ShowsWhatItReads ⟨Zone.eastern, 2024⟩ "2024-11-03 01:30:00,250" := by
  obtain ⟨format, hcompile, -, hshown⟩ :=
    shown_as_read_iff ⟨Zone.eastern, 2024⟩
      (show fits stampMask "2024-11-03 01:30:00,250".toList = true by decide) (by decide)
  refine ⟨format, hcompile, (hshown (Zone.eastern_isOrderlyAround 2024)).mpr ?_⟩
  rintro ⟨-, summer, hsummer, -, hseconds⟩
  obtain rfl : Zone.easternSummer = summer := by simpa [Zone.eastern] using hsummer
  exact absurd hseconds (by decide +kernel)

/-- Clocks in the east of North America skip two o'clock on 10 March 2024, but it is read, and shown as
three o'clock. -/
theorem not_shown_as_read_springForward :
    Zone.parse? "EST5EDT,M3.2.0,M11.1.0" = some Zone.eastern ∧
    fits stampMask "2024-03-10 02:00:00,000".toList = true ∧
    (clockOf "2024-03-10 02:00:00,000".toList).second ≤ 59 ∧
    stampFormat.parse ⟨Zone.eastern, 2024⟩ "2024-03-10 02:00:00,000" = .ok 1710054000000 ∧
    (Zone.eastern.momentAt? 1710054000000).map (·.render timeColumn) = some "2024-03-10 03:00:00.000" ∧
    ¬ stampFormat.ShowsWhatItReads ⟨Zone.eastern, 2024⟩ "2024-03-10 02:00:00,000" := by
  refine ⟨by decide +kernel, by decide, by decide, by decide +kernel, by decide +kernel, ?_⟩
  intro hshown
  have hreads := (showsWhatItReads_iff _ (by decide) (by decide)).mp hshown (by decide +kernel)
  refine (Zone.readsBack_iff (Zone.eastern_isOrderlyAround 2024) (by decide +kernel)).mp hreads ?_
  exact ⟨Zone.easternSummer, rfl, by decide +kernel, by decide +kernel⟩

end LogIntake
