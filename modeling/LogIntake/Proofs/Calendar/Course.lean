import LogIntake.Calendar.Zone
import LogIntake.Proofs.Calendar.Days
import Mathlib.Tactic.Common

/-!
# Local clocks through a year

* `Zone.Course`: the two offsets of a zone with a summer and the changes between them, in the order in
  which a year brings them.
* `Zone.Shows`: what the clocks of a zone show at an instant.
* `Zone.IsOrderlyAround`: the changes of the years around a year keep apart from each other and from
  the turns of the years.
* **`Zone.offsetAt_eq`**: in an orderly year clocks show the inner offset from the first change to the
  second one, and the outer offset otherwise.
* `Zone.ReadsBack`: the instant that is read from a date-time is one at which clocks show it.
* **`Zone.readsBack_iff`**: in an orderly year all date-times are read back, but for one second.
* `Zone.isOrderlyAround_of_monthly`: changes on weekdays of months apart are orderly in every year.
-/

namespace LogIntake.Calendar

/-! ## Years in seconds -/

/-- What clocks show when a year begins, in seconds from 1 January 1970. -/
def newYear (year : Int) : Int :=
  (daysBeforeYear year - epochDay) * 86400

theorem newYear_add_le (year : Int) : newYear year + 365 * 86400 ≤ newYear (year + 1) := by
  have hlength := le_daysInYear year
  unfold newYear
  rw [daysBeforeYear_succ]
  omega

theorem newYear_mono {a b : Int} (h : a ≤ b) : newYear a ≤ newYear b := by
  have := daysBeforeYear_mono h
  unfold newYear
  omega

theorem DateTime.IsCivil.seconds_mem {t : DateTime} (h : t.IsCivil) :
    newYear t.date.year ≤ t.seconds ∧ t.seconds < newYear (t.date.year + 1) := by
  have hdate := h.exists_date.bounds
  have hhour := h.hour
  have hminute := h.minute
  have hsecond := h.second
  unfold newYear DateTime.seconds
  omega

/-- The year of an instant near a year is that year or a neighbour. -/
theorem year_ofSeconds (year : Int) {instant : Int} (hfirst : newYear year - 86400 ≤ instant)
    (hlast : instant < newYear (year + 1) + 86400) :
    (DateTime.ofSeconds instant 0).date.year = year - 1 ∨
      (DateTime.ofSeconds instant 0).date.year = year ∨
      (DateTime.ofSeconds instant 0).date.year = year + 1 := by
  have hyear : (DateTime.ofSeconds instant 0).date.year = yearOfDay (instant / 86400 + epochDay) := rfl
  have hbefore := newYear_add_le (year - 1)
  have hafter := newYear_add_le (year + 1)
  obtain ⟨hge, hlt⟩ := yearOfDay_bounds (instant / 86400 + epochDay)
  rw [Int.sub_add_cancel] at hbefore
  rw [hyear]
  generalize yearOfDay (instant / 86400 + epochDay) = found at hge hlt
  have hfound : newYear found ≤ instant ∧ instant < newYear (found + 1) := by
    unfold newYear
    omega
  have hnot_early : ¬ found + 1 ≤ year - 1 := by
    intro h
    have := newYear_mono h
    omega
  have hnot_late : ¬ year + 1 + 1 ≤ found := by
    intro h
    have := newYear_mono h
    omega
  omega

/-! ## The course of a year -/

/-- The offsets of a zone before and after its changes and between them, and the changes in the order
of a year. -/
structure Zone.Course where
  outer : Int
  inner : Int
  first : Change
  second : Change
deriving DecidableEq

/-- Summer lies inside a year or around its turn. -/
def Zone.course (zone : Zone) (summer : Summer) (year : Int) : Course :=
  if summer.starts.day.dayNumber year < summer.ends.day.dayNumber year then
    ⟨zone.standard, summer.offset, summer.starts, summer.ends⟩
  else ⟨summer.offset, zone.standard, summer.ends, summer.starts⟩

namespace Zone.Course

/-- The instant of the first change. -/
def opens (c : Course) (year : Int) : Int :=
  c.first.clock year - c.outer

/-- The instant of the second change. -/
def closes (c : Course) (year : Int) : Int :=
  c.second.clock year - c.inner

/-- An instant lies between the changes of a year or of a neighbour of it. -/
def isBetween (c : Course) (year instant : Int) : Bool :=
  [year - 1, year, year + 1].any fun k => c.opens k ≤ instant && instant < c.closes k

/-- The offset at an instant of a year. -/
def offsetIn (c : Course) (year instant : Int) : Int :=
  if c.opens year ≤ instant ∧ instant < c.closes year then c.inner else c.outer

/-- The changes keep so far apart from each other and from the turns of the year that what one of them
skips or shows twice does not reach another. -/
structure IsOrderlyIn (c : Course) (year : Int) : Prop where
  begins : newYear year + max 0 (c.outer - c.inner) ≤ c.first.clock year
  lasts : c.first.clock year + 2 * max 0 (c.inner - c.outer) ≤ c.second.clock year
  proper : c.first.clock year < c.second.clock year
  ends : c.second.clock year + max 0 (c.outer - c.inner) ≤ newYear (year + 1)

instance (c : Course) (year : Int) : Decidable (c.IsOrderlyIn year) :=
  decidable_of_iff (newYear year + max 0 (c.outer - c.inner) ≤ c.first.clock year ∧
    c.first.clock year + 2 * max 0 (c.inner - c.outer) ≤ c.second.clock year ∧
    c.first.clock year < c.second.clock year ∧
    c.second.clock year + max 0 (c.outer - c.inner) ≤ newYear (year + 1))
    ⟨fun ⟨h₁, h₂, h₃, h₄⟩ => ⟨h₁, h₂, h₃, h₄⟩, fun ⟨h₁, h₂, h₃, h₄⟩ => ⟨h₁, h₂, h₃, h₄⟩⟩

variable {c : Course} {year : Int}

theorem IsOrderlyIn.opens_lt_closes (h : c.IsOrderlyIn year) : c.opens year < c.closes year := by
  have := h.lasts
  have := h.proper
  unfold opens closes
  omega

theorem IsOrderlyIn.le_opens (h : c.IsOrderlyIn year) :
    newYear year - min c.outer c.inner ≤ c.opens year := by
  have := h.begins
  unfold opens
  omega

theorem IsOrderlyIn.closes_le (h : c.IsOrderlyIn year) :
    c.closes year ≤ newYear (year + 1) - max c.outer c.inner := by
  have := h.ends
  unfold closes
  omega

/-- An instant of a year does not lie between the changes of another year. -/
theorem isBetween_iff {y instant : Int} (hy : y = year - 1 ∨ y = year ∨ y = year + 1)
    (h : ∀ k ∈ [year - 2, year - 1, year, year + 1, year + 2], c.IsOrderlyIn k)
    (hfirst : newYear year - max c.outer c.inner ≤ instant)
    (hlast : instant < newYear (year + 1) - min c.outer c.inner) :
    c.isBetween y instant = true ↔ c.opens year ≤ instant ∧ instant < c.closes year := by
  have hnear : ∀ k ∈ [y - 1, y, y + 1], k ∈ [year - 2, year - 1, year, year + 1, year + 2] := by
    simp only [List.mem_cons, List.not_mem_nil, or_false]
    omega
  have hbefore : ∀ k ∈ [y - 1, y, y + 1], k < year → c.closes k ≤ instant := fun k hk hlt => by
    have := (h k (hnear k hk)).closes_le
    have := newYear_mono (Int.add_one_le_of_lt hlt)
    omega
  have hafter : ∀ k ∈ [y - 1, y, y + 1], year < k → instant < c.opens k := fun k hk hlt => by
    have := (h k (hnear k hk)).le_opens
    have := newYear_mono (Int.add_one_le_of_lt hlt)
    omega
  simp only [isBetween, List.any_eq_true, Bool.and_eq_true, decide_eq_true_eq]
  constructor
  · rintro ⟨k, hk, hopens, hcloses⟩
    rcases lt_trichotomy k year with hlt | rfl | hlt
    · exact absurd hcloses (Int.not_lt.mpr (hbefore k hk hlt))
    · exact ⟨hopens, hcloses⟩
    · exact absurd hopens (Int.not_le.mpr (hafter k hk hlt))
  · intro hbetween
    refine ⟨year, ?_, hbetween⟩
    simp only [List.mem_cons, List.not_mem_nil, or_false]
    omega

/-- The offset that is read from what clocks show is the one at the instant that it gives, unless a
change forward comes first and clocks show the moment of this change. -/
theorem IsOrderlyIn.offsetIn_of_some {clock offset : Int} (h : c.IsOrderlyIn year)
    (hread : offsetBetween c.outer c.inner (c.first.clock year) (c.second.clock year) clock =
      some offset) : (offset = c.outer ∨ offset = c.inner) ∧
      (c.offsetIn year (clock - offset) = offset ↔
        ¬ (c.outer < c.inner ∧ clock = c.first.clock year)) := by
  have hlasts := h.lasts
  have hproper := h.proper
  simp only [offsetBetween, Bool.or_eq_true, decide_eq_true_eq] at hread
  unfold offsetIn opens closes
  split_ifs at hread <;> cases hread
  all_goals
    refine ⟨by simp, ?_⟩
    split_ifs <;> omega

/-- No offset is read from what clocks skip. -/
theorem IsOrderlyIn.offsetIn_of_none {clock offset : Int} (h : c.IsOrderlyIn year)
    (hread : offsetBetween c.outer c.inner (c.first.clock year) (c.second.clock year) clock = none)
    (hoffset : offset = c.outer ∨ offset = c.inner) :
    c.offsetIn year (clock - offset) ≠ offset ∧ clock ≠ c.first.clock year := by
  have hlasts := h.lasts
  have hproper := h.proper
  simp only [offsetBetween, Bool.or_eq_true, decide_eq_true_eq] at hread
  unfold offsetIn opens closes
  split_ifs at hread
  all_goals
    refine ⟨?_, by omega⟩
    rcases hoffset with rfl | rfl <;> split_ifs <;> omega

end Zone.Course

namespace Zone

/-- The years around a year have one course, which is orderly in each of them. -/
def IsOrderlyAround (zone : Zone) (year : Int) : Prop :=
  ∀ summer ∈ zone.summer, isOffset zone.standard = true ∧ isOffset summer.offset = true ∧
    ∀ k ∈ [year - 2, year - 1, year, year + 1, year + 2],
      zone.course summer k = zone.course summer year ∧ (zone.course summer year).IsOrderlyIn k

instance (zone : Zone) (year : Int) : Decidable (zone.IsOrderlyAround year) :=
  inferInstanceAs (Decidable (∀ summer ∈ zone.summer, _))

variable {zone : Zone} {summer : Summer} {year instant clock : Int} {t : DateTime}

theorem ite_not_true (b : Bool) (m n : Int) :
    (if (!b) = true then m else n) = if b = true then n else m := by
  cases b <;> rfl

/-- The offset at an instant in a year whose changes are in order. -/
theorem offsetAt_eq_ite {y : Int} (hsummer : zone.summer = some summer)
    (hy : (DateTime.ofSeconds instant 0).date.year = y)
    (horder : (zone.course summer y).opens y < (zone.course summer y).closes y) :
    zone.offsetAt instant = if (zone.course summer y).isBetween y instant then
      (zone.course summer y).inner else (zone.course summer y).outer := by
  simp only [offsetAt, hsummer, isSummerAt, hy]
  by_cases hday : summer.starts.day.dayNumber y < summer.ends.day.dayNumber y
  · have hcourse : zone.course summer y =
        ⟨zone.standard, summer.offset, summer.starts, summer.ends⟩ := if_pos hday
    rw [hcourse] at horder ⊢
    rw [if_pos (show summer.starts.clock y - zone.standard ≤ summer.ends.clock y - summer.offset from
      Int.le_of_lt horder)]
    rfl
  · have hcourse : zone.course summer y =
        ⟨summer.offset, zone.standard, summer.ends, summer.starts⟩ := if_neg hday
    rw [hcourse] at horder ⊢
    rw [if_neg (show ¬ summer.starts.clock y - zone.standard ≤ summer.ends.clock y - summer.offset from
      Int.not_le.mpr horder)]
    -- it is winter that lies between the changes here
    exact ite_not_true _ _ _

theorem IsOrderlyAround.isOffset_course (h : zone.IsOrderlyAround year)
    (hsummer : zone.summer = some summer) (y : Int) :
    isOffset (zone.course summer y).outer = true ∧ isOffset (zone.course summer y).inner = true := by
  obtain ⟨hstandard, hoffset, -⟩ := h summer hsummer
  unfold course
  split_ifs
  · exact ⟨hstandard, hoffset⟩
  · exact ⟨hoffset, hstandard⟩

/-- **Between the changes of an orderly year clocks show the inner offset, and the outer one before and
after them.** -/
theorem offsetAt_eq {c : Course} (h : zone.IsOrderlyAround year) (hsummer : zone.summer = some summer)
    (hc : zone.course summer year = c) (hfirst : newYear year - max c.outer c.inner ≤ instant)
    (hlast : instant < newYear (year + 1) - min c.outer c.inner) :
    zone.offsetAt instant = c.offsetIn year instant := by
  have hyears := (h summer hsummer).2.2
  have hsmall := h.isOffset_course hsummer year
  simp only [isOffset, decide_eq_true_eq, hc] at hsmall hyears
  have hnear := year_ofSeconds year (show newYear year - 86400 ≤ instant by omega) (by omega)
  generalize hy : (DateTime.ofSeconds instant 0).date.year = y at hnear
  have hmem : y ∈ [year - 2, year - 1, year, year + 1, year + 2] := by
    simp only [List.mem_cons, List.not_mem_nil, or_false]
    omega
  have hcourse := (hyears y hmem).1
  rw [offsetAt_eq_ite hsummer hy (by rw [hcourse]; exact (hyears y hmem).2.opens_lt_closes), hcourse]
  exact if_congr (Course.isBetween_iff hnear (fun k hk => (hyears k hk).2) hfirst hlast) rfl rfl

/-! ## Date-times read back -/

/-- The clocks of a zone show some seconds at an instant. -/
def Shows (zone : Zone) (instant clock : Int) : Prop :=
  isOffset (zone.offsetAt instant) = true ∧ instant + zone.offsetAt instant = clock

/-- Clocks show a date-time at the instant that is read from it, and never show one from which no
instant is read. -/
def ReadsBack (zone : Zone) (t : DateTime) : Prop :=
  match zone.offsetOfLocal? t with
  | some offset => zone.Shows (t.seconds - offset) t.seconds
  | none => ∀ instant, ¬ zone.Shows instant t.seconds

/-- The second at which a change forward comes first in its year. Clocks skip it, yet it is read as the
time before the change. -/
def IsLostSecond (zone : Zone) (t : DateTime) : Prop :=
  ∃ summer ∈ zone.summer,
    (zone.course summer t.date.year).outer < (zone.course summer t.date.year).inner ∧
    t.seconds = (zone.course summer t.date.year).first.clock t.date.year

theorem isOffset_of_offsetOfLocal? {offset : Int} (h : zone.offsetOfLocal? t = some offset) :
    isOffset offset = true :=
  (Option.filter_eq_some_iff.mp h).2

/-- The offset of a date-time follows the course of its year. -/
theorem offsetOfLocal?_eq {c : Course} (hsummer : zone.summer = some summer)
    (hc : zone.course summer t.date.year = c) :
    zone.offsetOfLocal? t = Option.filter isOffset (offsetBetween c.outer c.inner
      (c.first.clock t.date.year) (c.second.clock t.date.year) t.seconds) := by
  subst hc
  simp only [offsetOfLocal?, hsummer, course]
  split_ifs <;> rfl

/-- Where clocks do not change every date-time is read back. -/
theorem readsBack_of_no_summer (hsummer : zone.summer = none) : zone.ReadsBack t := by
  have hat : ∀ instant, zone.offsetAt instant = zone.standard := fun instant => by
    simp only [offsetAt, hsummer]
  unfold ReadsBack Shows
  simp only [offsetOfLocal?, hsummer, Option.filter_some]
  by_cases hstandard : isOffset zone.standard = true
  · rw [if_pos hstandard]
    exact ⟨by rw [hat, hstandard], by rw [hat, Int.sub_add_cancel]⟩
  · rw [if_neg hstandard]
    intro instant hshows
    exact hstandard (hat instant ▸ hshows.1)

theorem offsetAt_mem (hsummer : zone.summer = some summer) (year instant : Int) :
    zone.offsetAt instant = (zone.course summer year).outer ∨
      zone.offsetAt instant = (zone.course summer year).inner := by
  simp only [offsetAt, hsummer, course]
  split_ifs <;> simp

/-- The offset at the instant that one of the offsets of the zone gives to a civil date-time. -/
theorem offsetAt_sub {c : Course} {offset : Int} (h : zone.IsOrderlyAround t.date.year) (ht : t.IsCivil)
    (hsummer : zone.summer = some summer) (hc : zone.course summer t.date.year = c)
    (hoffset : offset = c.outer ∨ offset = c.inner) :
    zone.offsetAt (t.seconds - offset) = c.offsetIn t.date.year (t.seconds - offset) := by
  have hseconds := ht.seconds_mem
  apply offsetAt_eq h hsummer hc
  · omega
  · omega

/-- **In an orderly year every date-time is read back, unless it is the lost second.** -/
theorem readsBack_iff (h : zone.IsOrderlyAround t.date.year) (ht : t.IsCivil) :
    zone.ReadsBack t ↔ ¬ zone.IsLostSecond t := by
  cases hsummer : zone.summer with
  | none =>
    refine iff_of_true (readsBack_of_no_summer hsummer) ?_
    rintro ⟨summer, hmem, -⟩
    rw [hsummer] at hmem
    exact absurd hmem (Option.not_mem_none summer)
  | some summer =>
    generalize hc : zone.course summer t.date.year = c
    have horderly : c.IsOrderlyIn t.date.year :=
      hc ▸ ((h summer hsummer).2.2 t.date.year (by simp)).2
    have hlost : zone.IsLostSecond t ↔ c.outer < c.inner ∧ t.seconds = c.first.clock t.date.year := by
      simp only [IsLostSecond, hsummer, Option.mem_some_iff, exists_eq_left', hc]
    have hvalid : ∀ o, o = c.outer ∨ o = c.inner → isOffset o = true := by
      have hcourse := h.isOffset_course hsummer t.date.year
      rw [hc] at hcourse
      rintro o (rfl | rfl)
      · exact hcourse.1
      · exact hcourse.2
    rw [hlost]
    unfold ReadsBack Shows
    rw [offsetOfLocal?_eq hsummer hc]
    cases hread : offsetBetween c.outer c.inner (c.first.clock t.date.year)
        (c.second.clock t.date.year) t.seconds with
    | some offset =>
      obtain ⟨hmem, hiff⟩ := horderly.offsetIn_of_some hread
      rw [Option.filter_some, if_pos (hvalid offset hmem), ← hiff]
      dsimp only
      rw [offsetAt_sub h ht hsummer hc hmem]
      constructor
      · rintro ⟨-, hshown⟩
        omega
      · intro hshown
        exact ⟨by rw [hshown]; exact hvalid offset hmem, by omega⟩
    | none =>
      refine iff_of_true ?_ fun hlost => ?_
      · rintro instant ⟨-, hshown⟩
        have hmem := offsetAt_mem hsummer t.date.year instant
        rw [hc] at hmem
        have hinstant : instant = t.seconds - zone.offsetAt instant := by omega
        have hskipped := (horderly.offsetIn_of_none hread hmem).1
        rw [← offsetAt_sub h ht hsummer hc hmem, ← hinstant] at hskipped
        exact hskipped rfl
      · exact (horderly.offsetIn_of_none hread (.inl rfl)).2 hlost.2

end Zone

/-! ## Changes on weekdays of months -/

theorem daysInMonth_bounds (year : Int) (month : Nat) :
    28 ≤ daysInMonth year month ∧ daysInMonth year month ≤ 31 := by
  unfold daysInMonth
  repeat' split
  all_goals decide

/-- A change on a weekday of a month, at 24:59:59 at the latest. -/
structure Change.IsMonthly (change : Change) (month : Nat) : Prop where
  day : ∃ week weekday, change.day = .weekly month week weekday ∧ 1 ≤ week ∧ week ≤ 5
  time_nonneg : 0 ≤ change.time
  time_lt : change.time < 90000

namespace Change.IsMonthly

variable {change : Change} {month : Nat}

/-- The day of the change lies in its month. -/
theorem day_mem (h : change.IsMonthly month) (hmonth : 1 ≤ month) (year : Int) :
    daysBeforeYear year + daysBeforeMonth year month - epochDay ≤ change.day.dayNumber year ∧
      change.day.dayNumber year <
        daysBeforeYear year + daysBeforeMonth year (month + 1) - epochDay := by
  obtain ⟨week, weekday, hday, hweek, hfive⟩ := h.day
  have hbounds := daysInMonth_bounds year month
  rw [hday, daysBeforeMonth_succ year hmonth]
  simp only [YearDay.dayNumber, Date.dayNumber, Date.dayOfYear]
  split_ifs <;> omega

theorem clock_mem (h : change.IsMonthly month) (hmonth : 1 ≤ month) (year : Int) :
    newYear year + daysBeforeMonth year month * 86400 ≤ change.clock year ∧
      change.clock year < newYear year + daysBeforeMonth year (month + 1) * 86400 + 3600 := by
  have hday := h.day_mem hmonth year
  have hnonneg := h.time_nonneg
  have hlt := h.time_lt
  unfold newYear Change.clock
  omega

end Change.IsMonthly

section Monthly

variable {earlier later : Nat} (hearlier : 2 ≤ earlier) (hapart : earlier + 2 ≤ later)
  (hlater : later ≤ 11)
include hearlier hapart hlater

theorem Zone.Course.isOrderlyIn_of_monthly {c : Zone.Course} (hfirst : c.first.IsMonthly earlier)
    (hsecond : c.second.IsMonthly later) (houter : isOffset c.outer = true)
    (hinner : isOffset c.inner = true) (year : Int) : c.IsOrderlyIn year := by
  have hopens := hfirst.clock_mem (by omega) year
  have hcloses := hsecond.clock_mem (by omega) year
  have hjanuary : 31 ≤ daysBeforeMonth year earlier := by
    have := daysBeforeMonth_mono year (by decide) hearlier
    rwa [daysBeforeMonth_succ year (Nat.le_refl 1)] at this
  have hbetween : daysBeforeMonth year (earlier + 1) + 28 ≤ daysBeforeMonth year later := by
    have := daysBeforeMonth_mono year (by omega) (show earlier + 1 + 1 ≤ later from hapart)
    have := daysBeforeMonth_succ year (show 1 ≤ earlier + 1 by omega)
    have := (daysInMonth_bounds year (earlier + 1)).1
    omega
  have hdecember : daysBeforeMonth year (later + 1) + 31 ≤ daysInYear year := by
    have := daysBeforeMonth_mono year (by omega) (show later + 1 ≤ 12 by omega)
    have := daysBeforeMonth_succ year (show 1 ≤ 12 by decide)
    rw [daysBeforeMonth_thirteen] at this
    change _ = _ + 31 at this
    omega
  have hyear : newYear (year + 1) = newYear year + daysInYear year * 86400 := by
    unfold newYear
    rw [daysBeforeYear_succ]
    omega
  simp only [isOffset, decide_eq_true_eq] at houter hinner
  constructor <;> omega

/-- **Zones whose clocks change on weekdays of two months**, which lie apart from each other and from
the turn of the year, are orderly in every year. -/
theorem Zone.isOrderlyAround_of_monthly {zone : Zone} {summer : Summer}
    (hsummer : zone.summer = some summer) (hstandard : isOffset zone.standard = true)
    (hoffset : isOffset summer.offset = true)
    (h : summer.starts.IsMonthly earlier ∧ summer.ends.IsMonthly later ∨
      summer.ends.IsMonthly earlier ∧ summer.starts.IsMonthly later) (year : Int) :
    zone.IsOrderlyAround year := by
  have hmonths : ∀ k, daysBeforeMonth k (earlier + 1) ≤ daysBeforeMonth k later := fun k =>
    daysBeforeMonth_mono k (by omega) (by omega)
  intro other hother
  obtain rfl : summer = other := by simpa [hsummer] using hother
  refine ⟨hstandard, hoffset, fun k _ => ?_⟩
  rcases h with ⟨hfirst, hsecond⟩ | ⟨hfirst, hsecond⟩
  · have hcourse : ∀ k, zone.course summer k =
        ⟨zone.standard, summer.offset, summer.starts, summer.ends⟩ := fun k => by
      have := hfirst.day_mem (by omega) k
      have := hsecond.day_mem (by omega) k
      have := hmonths k
      exact if_pos (by omega)
    rw [hcourse, hcourse]
    refine ⟨rfl, ?_⟩
    exact Course.isOrderlyIn_of_monthly hearlier hapart hlater hfirst hsecond hstandard hoffset k
  · have hcourse : ∀ k, zone.course summer k =
        ⟨summer.offset, zone.standard, summer.ends, summer.starts⟩ := fun k => by
      have := hfirst.day_mem (by omega) k
      have := hsecond.day_mem (by omega) k
      have := hmonths k
      exact if_neg (by omega)
    rw [hcourse, hcourse]
    refine ⟨rfl, ?_⟩
    exact Course.isOrderlyIn_of_monthly hearlier hapart hlater hfirst hsecond hoffset hstandard k

end Monthly

/-- In Ireland winter time is what the rules give, and it lasts over the turn of the year. -/
example : ∀ zone ∈ Zone.parse? "IST-1GMT0,M10.5.0,M3.5.0/1", zone.IsOrderlyAround 2024 := by
  decide +kernel

namespace Zone

/-- The summer in the east of North America. -/
def easternSummer : Summer :=
  ⟨-14400, ⟨.weekly 3 2 0, 7200⟩, ⟨.weekly 11 1 0, 7200⟩⟩

/-- The zone `EST5EDT,M3.2.0,M11.1.0`. -/
def eastern : Zone :=
  ⟨-18000, some easternSummer⟩

theorem eastern_isOrderlyAround (year : Int) : eastern.IsOrderlyAround year :=
  isOrderlyAround_of_monthly (show 2 ≤ 3 by decide) (show 3 + 2 ≤ 11 by decide) (Nat.le_refl 11)
    (show eastern.summer = some easternSummer from rfl) rfl rfl
    (.inl ⟨⟨⟨2, 0, rfl, by decide, by decide⟩, by decide, by decide⟩,
      ⟨⟨1, 0, rfl, by decide, by decide⟩, by decide, by decide⟩⟩) year

end Zone

end LogIntake.Calendar
