import LogIntake.Proofs.Record.Grouping
import LogIntake.Record.Decoder
import Mathlib.Data.List.TakeWhile

/-!
# The raw lines of events

* `rawLines`: the lines of the raw text of an event.
* `keptLines`: the lines that records are made of.
* `Assembler.recordsIn`: the records of some lines, the pending one included.
* **`rawLines_recordsIn`**: every line kept is a raw line of one record, in order.
* `Decoder.emit_raw`, `Decoder.decodeAll_raw`, `Decoder.flush_raw`: events have the raw texts of the
  records.
-/

namespace LogIntake

/-- The lines of the raw text of a record. -/
def rawLines (raw : String) : List String :=
  (raw.toList.splitOn '\n').map String.ofList

/-- The lines of a stretch that records are made of: lines of white space are passed over, and those
before the first line that follows the template are dropped unless they are kept. -/
def keptLines (keep : Bool) (t : Template) (lines : List String) : List String :=
  if keep then withoutBlank lines else (withoutBlank lines).dropWhile t.rejects

/-- Lines without line feeds are found again in a text that is made of them. -/
theorem rawLines_intercalate {lines : List String} (hne : lines ≠ [])
    (h : ∀ line ∈ lines, '\n' ∉ line.toList) : rawLines ("\n".intercalate lines) = lines := by
  have hsplit : (("\n".toList).intercalate (lines.map String.toList)).splitOn '\n' =
      lines.map String.toList := by
    refine List.splitOn_intercalate '\n' (fun l hl => ?_) (fun hnil => hne (List.map_eq_nil_iff.mp hnil))
    obtain ⟨line, hline, rfl⟩ := List.mem_map.mp hl
    exact h line hline
  rw [rawLines, String.toList_intercalate, hsplit, List.map_map]
  exact List.map_id'' (fun line => String.ofList_toList) lines

/-! ## Records -/

variable {t : Template} {keep : Bool} {lines leading : List String} {groups : List Group}

theorem rawLines_groups (h : ∀ g ∈ groups, ∀ line ∈ g.lines, '\n' ∉ line.toList) :
    (groups.map Group.record).flatMap (fun record => rawLines record.raw) =
      groups.flatMap Group.lines := by
  rw [List.flatMap_map, List.flatMap_def, List.flatMap_def]
  refine congrArg List.flatten (List.map_congr_left fun g hg => ?_)
  exact rawLines_intercalate (List.cons_ne_nil _ _) (h g hg)

theorem rawLines_leading (h : ∀ line ∈ leading, '\n' ∉ line.toList) :
    (leadingRecord leading).toList.flatMap (fun record => rawLines record.raw) = leading := by
  cases leading with
  | nil => rfl
  | cons first further =>
    rw [leadingRecord, Option.toList_some, List.flatMap_singleton]
    exact rawLines_intercalate (List.cons_ne_nil _ _) h

/-- The lines that are kept are those of the groups, and those before the first group if they are
kept too. -/
theorem IsGrouped.keptLines_eq (h : IsGrouped t (withoutBlank lines) leading groups) (keep : Bool) :
    keptLines keep t lines = (if keep then leading else []) ++ groups.flatMap Group.lines := by
  cases keep with
  | true => exact h.eq
  | false =>
    rw [keptLines, if_neg Bool.false_ne_true, if_neg Bool.false_ne_true, List.nil_append]
    cases groups with
    | nil =>
      have hall := h.nil_iff.mp rfl
      rw [List.flatMap_nil, List.dropWhile_eq_nil_iff]
      exact fun line hl => Template.rejects_iff.mpr (hall line hl)
    | cons g groups =>
      rw [h.tail.2.1, List.flatMap_cons]
      rfl

/-- The records of some lines, the one that is pending at their end included. -/
def Assembler.recordsIn (a : Assembler) (lines : List String) : List Record :=
  (a.feedAll lines).1.filterMap id ++ (a.feedAll lines).2.pending.toList

theorem Assembler.recordsIn_nil (a : Assembler) : a.recordsIn [] = a.pending.toList := rfl

theorem Assembler.recordsIn_append (a : Assembler) (front back : List String) :
    a.recordsIn (front ++ back) =
      (a.feedAll front).1.filterMap id ++ (a.feedAll front).2.recordsIn back := by
  rw [recordsIn, feedAll_append, List.filterMap_append, List.append_assoc]
  rfl

/-- The assembler with nothing pending. -/
def Assembler.cleared (a : Assembler) : Assembler := { a with pending := none }

theorem Assembler.cleared_cleared (a : Assembler) : a.cleared.cleared = a.cleared := rfl

theorem Assembler.cleared_feedAll (a : Assembler) (lines : List String) :
    (a.feedAll lines).2.cleared = a.cleared := by
  obtain ⟨ht, hkeep⟩ := a.feedAll_template lines
  rw [cleared, cleared, ht, hkeep]

/-- **Every line that is kept is a raw line of one record, in order.** -/
theorem rawLines_recordsIn (t : Template) (keep : Bool) {lines : List String}
    (h : ∀ line ∈ lines, '\n' ∉ line.toList) :
    (Assembler.recordsIn { template := t, keepUnmatched := keep } lines).flatMap
      (fun record => rawLines record.raw) = keptLines keep t lines := by
  obtain ⟨leading, groups, hholds⟩ := (Assembler.Holds.start t keep).feedAll lines
  rw [List.nil_append, List.nil_append] at hholds
  obtain ⟨ht, hkeep⟩ := Assembler.feedAll_template { template := t, keepUnmatched := keep } lines
  have hgrouped := hholds.grouped
  have hall := hholds.all
  rw [ht] at hgrouped
  rw [hkeep] at hall
  have hfree : ∀ line ∈ leading ++ groups.flatMap Group.lines, '\n' ∉ line.toList := by
    rw [← hgrouped.eq]
    exact fun line hl => h line (List.mem_filter.mp hl).1
  have hleading : ∀ line ∈ leading, '\n' ∉ line.toList := fun line hl =>
    hfree line (List.mem_append_left _ hl)
  have hgroups : ∀ g ∈ groups, ∀ line ∈ g.lines, '\n' ∉ line.toList := fun g hg line hl =>
    hfree line (List.mem_append_right _ (List.mem_flatMap.mpr ⟨g, hg, hl⟩))
  rw [hgrouped.keptLines_eq keep, Assembler.recordsIn, hall, recordsOf, List.flatMap_append,
    rawLines_groups hgroups]
  cases keep with
  | true => exact congrArg (· ++ _) (rawLines_leading hleading)
  | false => rfl

namespace Decoder

variable (s : Surroundings) (d : Decoder)

theorem emit_raw (record : Option Record) :
    (d.emit s record).1.map Event.raw = record.toList.map Record.raw ∧
      (d.emit s record).2.assembler = d.assembler := by
  cases record with
  | none => exact ⟨rfl, rfl⟩
  | some record =>
    refine ⟨rfl, ?_⟩
    simp only [emit, resolveTime]
    split <;> rfl

theorem decode_raw (line : String) :
    (d.decode s line).1.map Event.raw = (d.assembler.feed line).1.toList.map Record.raw ∧
      (d.decode s line).2.assembler = (d.assembler.feed line).2 :=
  emit_raw s { d with assembler := (d.assembler.feed line).2 } _

/-- The events of lines have the raw texts of the records that the assembler hands out. -/
theorem decodeAll_raw (lines : List String) :
    (d.decodeAll s lines).1.map Event.raw =
        ((d.assembler.feedAll lines).1.filterMap id).map Record.raw ∧
      (d.decodeAll s lines).2.assembler = (d.assembler.feedAll lines).2 := by
  induction lines generalizing d with
  | nil => exact ⟨rfl, rfl⟩
  | cons line lines ih =>
    obtain ⟨hraw, hassembler⟩ := d.decode_raw s line
    obtain ⟨hlater, hend⟩ := ih (d.decode s line).2
    rw [hassembler] at hlater hend
    refine ⟨?_, hend⟩
    rw [Assembler.feedAll_handed_cons, List.map_append, ← hraw, ← hlater, ← List.map_append]
    rfl

theorem flush_raw : (d.flush s).1.map Event.raw = d.assembler.pending.toList.map Record.raw ∧
    (d.flush s).2.assembler = d.assembler.cleared :=
  emit_raw s { d with assembler := d.assembler.flush.2 } _

end Decoder

end LogIntake
