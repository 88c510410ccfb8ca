import LogIntake.Record.Assembler

/-!
# Records as groups of lines

* `StackFrame`: white space and then the word `at`; `isStackFrame_iff`.
* `IsGrouped`: lines cut in front of each one that follows the template.
* `Group.record`, `leadingRecord`, `recordsOf`: the records of such groups.
* `Assembler.feedAll`: lines taken one after the other; `Assembler.Holds`: what has been handed out and
  what is pending after some lines; kept by `Holds.feed`, `Holds.feedAll`.
* **`records_eq_groups`**: an assembler hands out the records of the groups.
-/

namespace LogIntake

/-! ## Lines of a stack trace -/

/-- White space, and then the word `at`. -/
def StackFrame (line : List Char) : Prop :=
  ∃ blanks rest, blanks ≠ [] ∧ (∀ c ∈ blanks, Text.isBlank c = true) ∧
    line = blanks ++ 'a' :: 't' :: rest ∧ ∀ c ∈ rest.head?, Text.isWordChar c = false

theorem trimStart_append {blanks rest : List Char} (h : ∀ c ∈ blanks, Text.isBlank c = true) :
    Text.trimStart (blanks ++ rest) = Text.trimStart rest := by
  rw [Text.trimStart, List.dropWhile_append_of_pos h]
  rfl

theorem isStackFrame_iff (line : List Char) : isStackFrame line = true ↔ StackFrame line := by
  constructor
  · intro h
    unfold isStackFrame at h
    split at h
    · next c tail rest htrim =>
      rw [Bool.and_eq_true, Bool.not_eq_true'] at h
      have hcut := List.takeWhile_append_dropWhile (p := Text.isBlank) (l := c :: tail)
      refine ⟨(c :: tail).takeWhile Text.isBlank, rest, ?_, fun d hd => ?_, ?_, fun d hd => ?_⟩
      · rw [List.takeWhile_cons_of_pos h.1]
        exact List.cons_ne_nil _ _
      · exact List.all_eq_true.mp List.all_takeWhile d hd
      · rw [← htrim]
        exact hcut.symm
      · rw [Option.mem_def.mp hd, Option.any_some] at h
        exact h.2
    · exact absurd h (by decide)
  · rintro ⟨blanks, rest, hne, hblank, rfl, hword⟩
    cases blanks with
    | nil => exact absurd rfl hne
    | cons c tail =>
      have htrim : Text.trimStart ((c :: tail) ++ 'a' :: 't' :: rest) = 'a' :: 't' :: rest := by
        rw [trimStart_append hblank]
        rfl
      rw [List.cons_append] at htrim ⊢
      simp only [isStackFrame, htrim, hblank c List.mem_cons_self, Bool.true_and,
        Bool.not_eq_true']
      cases hh : rest.head? with
      | none => rfl
      | some d => exact hword d hh

instance (line : List Char) : Decidable (StackFrame line) :=
  decidable_of_iff _ (isStackFrame_iff line)

/-- The lines of a stack trace, without the white space at their ends. -/
def stackFrames (lines : List String) : List String :=
  (lines.filter fun line => decide (StackFrame line.toList)).map fun line =>
    String.ofList (Text.trimEnd line.toList)

theorem stackFrames_concat (lines : List String) (line : String) :
    stackFrames (lines ++ [line]) = if isStackFrame line.toList then
      stackFrames lines ++ [String.ofList (Text.trimEnd line.toList)] else stackFrames lines := by
  have he : decide (StackFrame line.toList) = isStackFrame line.toList := by
    rw [Bool.eq_iff_iff, decide_eq_true_eq, isStackFrame_iff]
  rw [stackFrames, List.filter_append, List.filter_cons, he]
  cases isStackFrame line.toList with
  | true => simp [stackFrames]
  | false => simp [stackFrames]

/-! ## Groups -/

/-- The line does not follow the template. -/
def Template.rejects (t : Template) (line : String) : Bool :=
  (t.captures? line).isNone

theorem Template.rejects_iff {t : Template} {line : String} :
    t.rejects line = true ↔ t.captures? line = none :=
  Option.isNone_iff_eq_none

/-- A line that follows the template, what it captures, and the lines that continue it. -/
structure Group where
  first : String
  captures : Captures
  further : List String := []

namespace Group

/-- The lines of a group. -/
def lines (g : Group) : List String := g.first :: g.further

/-- The record of a group. -/
def record (g : Group) : Record where
  fields := g.captures.filter (·.1 ≠ .message)
  message := "\n".intercalate ((g.captures.get? .message).getD "" :: g.further)
  throwable := stackFrames g.further
  raw := "\n".intercalate g.lines
  unparsed := false

end Group

/-- The record of the lines before the first group, if there are any. -/
def leadingRecord : List String → Option Record
  | [] => none
  | first :: further => some
    { fields := []
      message := "\n".intercalate (first :: further)
      throwable := stackFrames further
      raw := "\n".intercalate (first :: further)
      unparsed := true }

/-- All records, in order; those lines before the first group are dropped unless they are kept. -/
def recordsOf (keep : Bool) (leading : List String) (groups : List Group) : List Record :=
  (if keep then leadingRecord leading else none).toList ++ groups.map Group.record

/-- **Lines cut in front of each one that follows the template.** -/
structure IsGrouped (t : Template) (lines leading : List String) (groups : List Group) : Prop where
  eq : lines = leading ++ groups.flatMap Group.lines
  leading_unmatched : ∀ line ∈ leading, t.captures? line = none
  matched : ∀ g ∈ groups, t.captures? g.first = some g.captures
  further_unmatched : ∀ g ∈ groups, ∀ line ∈ g.further, t.captures? line = none

theorem intercalate_concat {lines : List String} (h : lines ≠ []) (line : String) :
    "\n".intercalate (lines ++ [line]) = "\n".intercalate lines ++ "\n" ++ line := by
  rw [String.intercalate_append_of_ne_nil h (List.cons_ne_nil _ _), String.intercalate_singleton]

theorem Group.record_concat (g : Group) (line : String) :
    { g with further := g.further ++ [line] }.record = g.record.append line := by
  have hm := intercalate_concat (List.cons_ne_nil ((g.captures.get? .message).getD "") g.further) line
  have hr := intercalate_concat (List.cons_ne_nil g.first g.further) line
  simp only [Group.record, Group.lines, Record.append, stackFrames_concat, ← hm, ← hr,
    List.cons_append]

theorem leadingRecord_concat (leading : List String) (line : String) :
    leadingRecord (leading ++ [line]) = some (match leadingRecord leading with
      | none => .ofUnmatched line
      | some record => record.append line) := by
  cases leading with
  | nil => simp [leadingRecord, Record.ofUnmatched, stackFrames, String.intercalate_singleton]
  | cons first further =>
    have h := intercalate_concat (List.cons_ne_nil first further) line
    simp only [leadingRecord, Record.append, List.cons_append, stackFrames_concat, ← h]

theorem recordsOf_concat (keep : Bool) (leading : List String) (groups : List Group) (g : Group) :
    recordsOf keep leading (groups ++ [g]) = recordsOf keep leading groups ++ [g.record] := by
  simp [recordsOf]

namespace IsGrouped

variable {t : Template} {lines leading : List String} {groups : List Group} {line : String}

theorem matched_concat {captures : Captures} (h : IsGrouped t lines leading groups)
    (hl : t.captures? line = some captures) :
    IsGrouped t (lines ++ [line]) leading (groups ++ [⟨line, captures, []⟩]) := by
  refine ⟨?_, h.leading_unmatched, fun g hg => ?_, fun g hg => ?_⟩
  · rw [h.eq, List.flatMap_append, List.append_assoc]; rfl
  · rcases List.mem_append.mp hg with hg | hg
    · exact h.matched g hg
    · rw [List.mem_singleton.mp hg]; exact hl
  · rcases List.mem_append.mp hg with hg | hg
    · exact h.further_unmatched g hg
    · rw [List.mem_singleton.mp hg]; simp

theorem leading_concat (h : IsGrouped t lines leading []) (hl : t.captures? line = none) :
    IsGrouped t (lines ++ [line]) (leading ++ [line]) [] := by
  refine ⟨?_, fun l hm => ?_, h.matched, h.further_unmatched⟩
  · rw [h.eq]; simp
  · rcases List.mem_append.mp hm with hm | hm
    · exact h.leading_unmatched l hm
    · rw [List.mem_singleton.mp hm]; exact hl

theorem further_concat {g : Group} (h : IsGrouped t lines leading (groups ++ [g]))
    (hl : t.captures? line = none) :
    IsGrouped t (lines ++ [line]) leading (groups ++ [{ g with further := g.further ++ [line] }]) := by
  have hg : g ∈ groups ++ [g] := List.mem_append_right _ List.mem_cons_self
  refine ⟨?_, h.leading_unmatched, fun g' hg' => ?_, fun g' hg' l hm => ?_⟩
  · rw [h.eq]; simp [Group.lines]
  · rcases List.mem_append.mp hg' with hg' | hg'
    · exact h.matched g' (List.mem_append_left _ hg')
    · rw [List.mem_singleton.mp hg']; exact h.matched g hg
  · rcases List.mem_append.mp hg' with hg' | hg'
    · exact h.further_unmatched g' (List.mem_append_left _ hg') l hm
    · rw [List.mem_singleton.mp hg'] at hm
      rcases List.mem_append.mp hm with hm | hm
      · exact h.further_unmatched g hg l hm
      · rw [List.mem_singleton.mp hm]; exact hl

/-- A line that does not follow the template continues the last record. If there is none it begins a
record of its own or is dropped. -/
theorem unmatched_concat (h : IsGrouped t lines leading groups) (hl : t.captures? line = none)
    (keep : Bool) : ∃ leading' groups', IsGrouped t (lines ++ [line]) leading' groups' ∧
      recordsOf keep leading' groups' = match (recordsOf keep leading groups).getLast? with
        | some record => (recordsOf keep leading groups).dropLast ++ [record.append line]
        | none => if keep then [.ofUnmatched line] else [] := by
  rcases List.eq_nil_or_concat groups with rfl | ⟨groups, g, rfl⟩
  · refine ⟨_, _, h.leading_concat hl, ?_⟩
    cases keep with
    | false => rfl
    | true =>
      simp only [recordsOf, if_true, leadingRecord_concat]
      cases leadingRecord leading with
      | none => rfl
      | some record => rfl
  · rw [List.concat_eq_append] at h ⊢
    refine ⟨_, _, h.further_concat hl, ?_⟩
    rw [recordsOf_concat, recordsOf_concat, List.getLast?_concat, List.dropLast_concat,
      Group.record_concat]

theorem nil_iff (h : IsGrouped t lines leading groups) :
    groups = [] ↔ ∀ line ∈ lines, t.captures? line = none := by
  constructor
  · rintro rfl line hl
    rw [h.eq, List.flatMap_nil, List.append_nil] at hl
    exact h.leading_unmatched line hl
  · intro hall
    rw [List.eq_nil_iff_forall_not_mem]
    intro g hg
    have hmem : g.first ∈ lines := by
      rw [h.eq]
      exact List.mem_append_right _ (List.mem_flatMap.mpr ⟨g, hg, List.mem_cons_self⟩)
    have := hall _ hmem
    rw [h.matched g hg] at this
    exact Option.some_ne_none _ this

/-- The first group, and the grouping of what comes after its first line. -/
theorem tail {g : Group} (h : IsGrouped t lines leading (g :: groups)) :
    leading = lines.takeWhile t.rejects ∧
      lines.dropWhile t.rejects = g.first :: (g.further ++ groups.flatMap Group.lines) ∧
      IsGrouped t (g.further ++ groups.flatMap Group.lines) g.further groups := by
  have hlead : ∀ line ∈ leading, t.rejects line = true := fun line hl =>
    Template.rejects_iff.mpr (h.leading_unmatched line hl)
  have hfirst : ¬ t.rejects g.first = true := by
    rw [Template.rejects_iff, h.matched g List.mem_cons_self]; exact Option.some_ne_none _
  have heq : lines = leading ++ g.first :: (g.further ++ groups.flatMap Group.lines) := by
    rw [h.eq, List.flatMap_cons]; rfl
  refine ⟨?_, ?_, rfl, h.further_unmatched g List.mem_cons_self,
    fun g' hg => h.matched g' (List.mem_cons_of_mem _ hg),
    fun g' hg => h.further_unmatched g' (List.mem_cons_of_mem _ hg)⟩
  · rw [heq, List.takeWhile_append_of_pos hlead, List.takeWhile_cons_of_neg hfirst,
      List.append_nil]
  · rw [heq, List.dropWhile_append_of_pos hlead, List.dropWhile_cons_of_neg hfirst]

/-- **Lines can be grouped in one way only.** -/
theorem unique {leading' : List String} {groups' : List Group}
    (h : IsGrouped t lines leading groups) (h' : IsGrouped t lines leading' groups') :
    leading' = leading ∧ groups' = groups := by
  induction groups generalizing lines leading leading' groups' with
  | nil =>
    have hnil : groups' = [] := h'.nil_iff.mpr (h.nil_iff.mp rfl)
    subst hnil
    have e := h'.eq.symm.trans h.eq
    rw [List.flatMap_nil, List.append_nil, List.append_nil] at e
    exact ⟨e, rfl⟩
  | cons g groups ih =>
    cases groups' with
    | nil => exact absurd (h.nil_iff.mpr (h'.nil_iff.mp rfl)) (List.cons_ne_nil _ _)
    | cons g' groups' =>
      obtain ⟨hlead, hdrop, htail⟩ := h.tail
      obtain ⟨hlead', hdrop', htail'⟩ := h'.tail
      have e := List.cons.inj (hdrop'.symm.trans hdrop)
      rw [e.2] at htail'
      obtain ⟨hfurther, rfl⟩ := ih htail htail'
      have hcapt : some g'.captures = some g.captures := by
        rw [← h'.matched g' List.mem_cons_self, ← h.matched g List.mem_cons_self, e.1]
      refine ⟨hlead'.trans hlead.symm, ?_⟩
      obtain ⟨first, captures, further⟩ := g
      obtain ⟨first', captures', further'⟩ := g'
      simp only at e hfurther hcapt
      rw [e.1, hfurther, Option.some.inj hcapt]

end IsGrouped

/-! ## Feeding lines -/

/-- The lines that do not consist of white space only. -/
def withoutBlank (lines : List String) : List String :=
  lines.filter fun line => !Text.isAllBlank line.toList

theorem withoutBlank_flatten (parts : List (List String)) :
    withoutBlank parts.flatten = (parts.map withoutBlank).flatten :=
  List.filter_flatten

namespace Assembler

variable {a : Assembler} {line : String}

theorem feed_blank (hb : Text.isAllBlank line.toList = true) : a.feed line = (none, a) := by
  rw [feed, if_pos hb]

theorem feed_matched {captures : Captures} (hb : Text.isAllBlank line.toList = false)
    (hm : a.template.captures? line = some captures) :
    a.feed line = (a.pending, { a with pending := some (.ofCaptures captures line) }) := by
  rw [feed, hb, if_neg Bool.false_ne_true, hm]

theorem feed_unmatched (hb : Text.isAllBlank line.toList = false)
    (hn : a.template.captures? line = none) :
    a.feed line = (none, { a with pending := match a.pending with
      | some record => some (record.append line)
      | none => if a.keepUnmatched then some (.ofUnmatched line) else none }) := by
  obtain ⟨t, keep, pending⟩ := a
  rw [feed, hb, if_neg Bool.false_ne_true, hn]
  cases pending with
  | some record => rfl
  | none => cases keep <;> rfl

/-- Takes lines one after the other: what each of them hands out, and the assembler after them. -/
def feedAll : Assembler → List String → List (Option Record) × Assembler
  | a, [] => ([], a)
  | a, line :: rest => ((a.feed line).1 :: (feedAll (a.feed line).2 rest).1,
    (feedAll (a.feed line).2 rest).2)

/-- The records that are handed out, those of the first line in front. -/
theorem feedAll_handed_cons (a : Assembler) (line : String) (lines : List String) :
    (a.feedAll (line :: lines)).1.filterMap id =
      (a.feed line).1.toList ++ ((a.feed line).2.feedAll lines).1.filterMap id := by
  rw [feedAll]
  cases (a.feed line).1 <;> rfl

theorem feedAll_append (a : Assembler) (front back : List String) :
    a.feedAll (front ++ back) = ((a.feedAll front).1 ++ ((a.feedAll front).2.feedAll back).1,
      ((a.feedAll front).2.feedAll back).2) := by
  induction front generalizing a with
  | nil => rfl
  | cons line front ih => rw [List.cons_append, feedAll, ih]; rfl

theorem feedAll_length (a : Assembler) (lines : List String) :
    (a.feedAll lines).1.length = lines.length := by
  induction lines generalizing a with
  | nil => rfl
  | cons line lines ih => rw [feedAll, List.length_cons, ih, List.length_cons]

theorem feedAll_template (a : Assembler) (lines : List String) :
    (a.feedAll lines).2.template = a.template ∧
      (a.feedAll lines).2.keepUnmatched = a.keepUnmatched := by
  induction lines generalizing a with
  | nil => exact ⟨rfl, rfl⟩
  | cons line lines ih =>
    have h : (a.feed line).2.template = a.template ∧
        (a.feed line).2.keepUnmatched = a.keepUnmatched := by
      cases hb : Text.isAllBlank line.toList with
      | true => rw [feed_blank hb]; exact ⟨rfl, rfl⟩
      | false =>
        cases hm : a.template.captures? line with
        | some captures => rw [feed_matched hb hm]; exact ⟨rfl, rfl⟩
        | none => rw [feed_unmatched hb hm]; exact ⟨rfl, rfl⟩
    rw [feedAll, (ih _).1, (ih _).2]
    exact h

/-- **After the lines `fed`** the records of all groups but the last have been handed out, and the last
one is pending. -/
structure Holds (a : Assembler) (fed : List String) (handed : List Record) (leading : List String)
    (groups : List Group) : Prop where
  grouped : IsGrouped a.template (withoutBlank fed) leading groups
  handed_eq : handed = (recordsOf a.keepUnmatched leading groups).dropLast
  pending_eq : a.pending = (recordsOf a.keepUnmatched leading groups).getLast?

theorem Holds.start (t : Template) (keep : Bool) :
    Holds { template := t, keepUnmatched := keep } [] [] [] [] := by
  refine ⟨⟨rfl, by simp, by simp, by simp⟩, ?_, ?_⟩ <;> cases keep <;> rfl

theorem dropLast_append_getLast? {α : Type} (l : List α) : l.dropLast ++ l.getLast?.toList = l := by
  rcases List.eq_nil_or_concat l with rfl | ⟨l, x, rfl⟩
  · rfl
  · rw [List.concat_eq_append, List.dropLast_concat, List.getLast?_concat]; rfl

/-- All records, those handed out and the pending one. -/
theorem Holds.all {fed leading : List String} {handed : List Record} {groups : List Group}
    (h : Holds a fed handed leading groups) :
    handed ++ a.pending.toList = recordsOf a.keepUnmatched leading groups := by
  rw [h.handed_eq, h.pending_eq, dropLast_append_getLast?]

/-- **One line.** -/
theorem Holds.feed {fed leading : List String} {handed : List Record} {groups : List Group}
    (h : Holds a fed handed leading groups) (line : String) : ∃ leading' groups',
      Holds (a.feed line).2 (fed ++ [line]) (handed ++ (a.feed line).1.toList) leading' groups' := by
  cases hb : Text.isAllBlank line.toList with
  | true =>
    have hf : withoutBlank (fed ++ [line]) = withoutBlank fed := by simp [withoutBlank, hb]
    rw [feed_blank hb, Option.toList_none, List.append_nil]
    exact ⟨leading, groups, hf ▸ h.grouped, h.handed_eq, h.pending_eq⟩
  | false =>
    have hf : withoutBlank (fed ++ [line]) = withoutBlank fed ++ [line] := by
      simp [withoutBlank, hb]
    cases hm : a.template.captures? line with
    | some captures =>
      have hr : recordsOf a.keepUnmatched leading (groups ++ [⟨line, captures, []⟩]) =
          recordsOf a.keepUnmatched leading groups ++ [.ofCaptures captures line] := by
        rw [recordsOf_concat]
        simp [Group.record, Group.lines, Record.ofCaptures, stackFrames,
          String.intercalate_singleton]
      rw [feed_matched hb hm]
      refine ⟨leading, groups ++ [⟨line, captures, []⟩], hf ▸ h.grouped.matched_concat hm, ?_, ?_⟩
      · rw [h.all, hr, List.dropLast_concat]
      · rw [hr, List.getLast?_concat]
    | none =>
      obtain ⟨leading', groups', hg, hr⟩ := h.grouped.unmatched_concat hm a.keepUnmatched
      rw [feed_unmatched hb hm, Option.toList_none, List.append_nil]
      refine ⟨leading', groups', hf ▸ hg, ?_, ?_⟩
      · rw [hr, h.handed_eq]
        cases hl : (recordsOf a.keepUnmatched leading groups).getLast? with
        | some record => rw [List.dropLast_concat]
        | none =>
          rw [List.getLast?_eq_none_iff.mp hl]
          cases a.keepUnmatched <;> rfl
      · simp only [hr, h.pending_eq]
        cases (recordsOf a.keepUnmatched leading groups).getLast? with
        | some record => rw [List.getLast?_concat]
        | none => cases a.keepUnmatched <;> rfl

/-- **All lines.** -/
theorem Holds.feedAll {fed leading : List String} {handed : List Record} {groups : List Group}
    (h : Holds a fed handed leading groups) (lines : List String) : ∃ leading' groups',
      Holds (a.feedAll lines).2 (fed ++ lines) (handed ++ (a.feedAll lines).1.filterMap id)
        leading' groups' := by
  induction lines generalizing a fed handed leading groups with
  | nil =>
    refine ⟨leading, groups, ?_⟩
    rw [Assembler.feedAll, List.append_nil, List.filterMap_nil, List.append_nil]
    exact h
  | cons line lines ih =>
    obtain ⟨leading', groups', h'⟩ := h.feed line
    obtain ⟨leading'', groups'', h''⟩ := ih h'
    refine ⟨leading'', groups'', ?_⟩
    rw [feedAll_handed_cons, ← List.append_assoc, List.append_cons]
    exact h''

end Assembler

/-- **An assembler hands out the records of the groups of its lines**, each at the next line that
follows the template and the last one at the end of the lines. -/
theorem records_eq_groups (t : Template) (keep : Bool) (lines : List String) :
    let a : Assembler := { template := t, keepUnmatched := keep }
    ∃ leading groups, IsGrouped t (withoutBlank lines) leading groups ∧
      (∀ leading' groups', IsGrouped t (withoutBlank lines) leading' groups' →
        leading' = leading ∧ groups' = groups) ∧
      (a.feedAll lines).1.filterMap id ++ (a.feedAll lines).2.flush.1.toList =
        recordsOf keep leading groups ∧
      (a.feedAll lines).2.flush.1 = (recordsOf keep leading groups).getLast? ∧
      ∀ front line back, lines = front ++ line :: back → (a.feedAll lines).1[front.length]? = some
        (if Text.isAllBlank line.toList = true ∨ t.captures? line = none then none
          else (a.feedAll front).2.flush.1) := by
  intro a
  obtain ⟨leading, groups, h⟩ := (Assembler.Holds.start t keep).feedAll lines
  rw [List.nil_append, List.nil_append] at h
  obtain ⟨ht, hkeep⟩ := Assembler.feedAll_template a lines
  have hgrouped := h.grouped
  have hpending := h.pending_eq
  have hall := h.all
  rw [ht] at hgrouped
  rw [hkeep] at hpending hall
  refine ⟨leading, groups, hgrouped, fun _ _ h' => hgrouped.unique h', hall, hpending,
    fun front line back hl => ?_⟩
  have ht' : (a.feedAll front).2.template = t := (Assembler.feedAll_template a front).1
  have hlen := Assembler.feedAll_length a front
  rw [hl, Assembler.feedAll_append, List.getElem?_append_right (Nat.le_of_eq hlen), hlen,
    Nat.sub_self, Assembler.feedAll, List.getElem?_cons_zero]
  congr 1
  cases hb : Text.isAllBlank line.toList with
  | true => rw [Assembler.feed_blank hb, if_pos (Or.inl rfl)]
  | false =>
    cases hm : t.captures? line with
    | none => rw [Assembler.feed_unmatched hb (by rw [ht', hm]), if_pos (Or.inr rfl)]
    | some captures =>
      rw [Assembler.feed_matched hb (by rw [ht', hm]), if_neg (by simp)]
      rfl

end LogIntake
