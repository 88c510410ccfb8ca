import LogIntake.Proofs.Receiver.Worker
import LogIntake.Proofs.Record.Decoding
import Mathlib.Data.List.DropRight

/-!
# Lines between polls that bring none

A poll that brings no line ends the pending record, so the lines after it are grouped anew.

* `stretches`: the lines of batches, cut where a batch brings none.
* `Decoder.raw_decodeBatches`: the events of batches are those of the stretches.
* `afterFirst`: the stretches after the one with the first line that follows the template.
* **`suffix_keptLines_iff`**: no line is lost if and only if unmatched lines are kept or each of these
  stretches begins with such a line.
-/

namespace LogIntake

/-- The lines of batches in stretches. A batch that brings no line ends a stretch. -/
def stretches (batches : List Batch) : List (List String) :=
  ((batches.map Batch.lines).splitOn []).map List.flatten

theorem stretches_cons_of_nil {batch : Batch} (h : batch.lines = []) (batches : List Batch) :
    stretches (batch :: batches) = [] :: stretches batches := by
  rw [stretches, List.map_cons, List.splitOn_cons_eq_if_modifyHead, h, if_pos (by simp)]
  rfl

theorem stretches_cons_of_ne_nil {batch : Batch} (h : batch.lines ≠ []) {batches : List Batch}
    {first : List String} {later : List (List String)} (hs : stretches batches = first :: later) :
    stretches (batch :: batches) = (batch.lines ++ first) :: later := by
  rw [stretches] at hs ⊢
  rw [List.map_cons, List.splitOn_cons_eq_if_modifyHead, if_neg (by simpa using h)]
  cases hsplit : (batches.map Batch.lines).splitOn [] with
  | nil => exact absurd hsplit (List.splitOn_ne_nil _ _)
  | cons head tail =>
    rw [hsplit, List.map_cons, List.cons.injEq] at hs
    rw [List.modifyHead_cons, List.map_cons, List.flatten_cons, hs.1, hs.2]

/-- The stretches have all the lines of the batches. -/
theorem exists_stretches (batches : List Batch) : ∃ first later,
    stretches batches = first :: later ∧ first ++ later.flatten = batches.flatMap Batch.lines := by
  induction batches with
  | nil => exact ⟨[], [], rfl, rfl⟩
  | cons batch batches ih =>
    obtain ⟨first, later, hs, hflatten⟩ := ih
    rw [List.flatMap_cons, ← hflatten]
    by_cases h : batch.lines = []
    · exact ⟨[], first :: later, by rw [stretches_cons_of_nil h, hs], by rw [h]; rfl⟩
    · exact ⟨batch.lines ++ first, later, stretches_cons_of_ne_nil h hs, List.append_assoc _ _ _⟩

/-! ## The events of stretches -/

/-- **The events of batches, the pending one included, are those of the records of each stretch.** -/
theorem Decoder.raw_decodeBatches (s : Surroundings) (d : Decoder) {batches : List Batch}
    (h : ∀ batch ∈ batches, batch.atEnd = false) :
    ∃ first later, stretches batches = first :: later ∧
      ((d.decodeBatches s batches).1 ++ ((d.decodeBatches s batches).2.flush s).1).map Event.raw =
        (d.assembler.recordsIn first ++ later.flatMap d.assembler.cleared.recordsIn).map
          Record.raw := by
  induction batches generalizing d with
  | nil =>
    refine ⟨[], [], rfl, ?_⟩
    rw [Assembler.recordsIn_nil, List.flatMap_nil, List.append_nil]
    exact (d.flush_raw s).1
  | cons batch batches ih =>
    rw [List.forall_mem_cons] at h
    obtain ⟨hraw, hassembler⟩ := d.decodeAll_raw s batch.lines
    by_cases hlines : batch.lines = []
    · -- the batch brings no line, so the pending record goes out and nothing is left of it
      obtain ⟨first, later, hs, hlater⟩ := ih (d.decodeBatch s batch).2 h.2
      obtain ⟨hflush, hcleared⟩ := d.flush_raw s
      have hbatch : d.decodeBatch s batch = d.flush s := by
        rw [decodeBatch, hlines, List.isEmpty_nil, Bool.or_true, if_pos rfl]
        rfl
      refine ⟨[], first :: later, by rw [stretches_cons_of_nil hlines, hs], ?_⟩
      rw [hbatch, hcleared, Assembler.cleared_cleared] at hlater
      rw [Decoder.decodeBatches, hbatch, List.append_assoc, List.map_append, hlater, hflush,
        Assembler.recordsIn_nil, List.flatMap_cons, ← List.map_append]
    · obtain ⟨first, later, hs, hlater⟩ := ih (d.decodeBatch s batch).2 h.2
      have hbatch : d.decodeBatch s batch = d.decodeAll s batch.lines := by
        have hmore : ¬ (batch.atEnd || batch.lines.isEmpty) = true := by simp [h.1, hlines]
        rw [decodeBatch, if_neg hmore]
      refine ⟨batch.lines ++ first, later, stretches_cons_of_ne_nil hlines hs, ?_⟩
      rw [hbatch, hassembler, Assembler.cleared_feedAll] at hlater
      rw [Decoder.decodeBatches, hbatch, List.append_assoc, List.map_append, hlater, hraw,
        Assembler.recordsIn_append, ← List.map_append, ← List.append_assoc]

theorem Decoder.raw_decodeBatches_of_cleared (s : Surroundings) (d : Decoder) {batches : List Batch}
    (hd : d.assembler.cleared = d.assembler) (h : ∀ batch ∈ batches, batch.atEnd = false) :
    ((d.decodeBatches s batches).1 ++ ((d.decodeBatches s batches).2.flush s).1).map Event.raw =
      ((stretches batches).flatMap d.assembler.recordsIn).map Record.raw := by
  obtain ⟨first, later, hs, hraw⟩ := d.raw_decodeBatches s h
  rw [hraw, hs, hd, List.flatMap_cons]

/-- The raw lines of the records of each stretch are those that are kept of it. -/
theorem rawLines_stretches (t : Template) (keep : Bool) {parts : List (List String)}
    (h : ∀ line ∈ parts.flatten, '\n' ∉ line.toList) :
    (parts.flatMap (Assembler.recordsIn { template := t, keepUnmatched := keep })).flatMap
      (fun record => rawLines record.raw) = parts.flatMap (keptLines keep t) := by
  rw [List.flatMap_assoc, List.flatMap_def, List.flatMap_def]
  refine congrArg List.flatten (List.map_congr_left fun part hpart => ?_)
  exact rawLines_recordsIn t keep fun line hline =>
    h line (List.mem_flatten.mpr ⟨part, hpart, hline⟩)

/-! ## Lines that are lost -/

section DropWhile

variable {α : Type} (p : α → Bool)

/-- The lists after the first one that has an element without the property. -/
def afterFirst : List (List α) → List (List α)
  | [] => []
  | list :: lists => if list.all p then afterFirst lists else lists

variable {p}

theorem flatMap_dropWhile_sublist (lists : List (List α)) :
    (lists.flatMap (List.dropWhile p)).Sublist lists.flatten := by
  induction lists with
  | nil => exact List.Sublist.refl _
  | cons list lists ih =>
    rw [List.flatMap_cons, List.flatten_cons]
    exact (List.dropWhile_sublist p).append ih

theorem length_le_dropWhile_iff {list : List α} :
    list.length ≤ (list.dropWhile p).length ↔ ∀ x ∈ list.head?, p x = false := by
  cases list with
  | nil => simp
  | cons x list =>
    cases hx : p x with
    | false => simp [hx]
    | true =>
      have := (List.dropWhile_sublist p (l := list)).length_le
      rw [List.dropWhile_cons_of_pos hx, List.length_cons]
      simp only [List.head?_cons, Option.mem_some, forall_eq', hx, Bool.true_eq_false, iff_false]
      omega

/-- Nothing is dropped from lists if each begins with an element without the property. -/
theorem flatten_length_le_iff (lists : List (List α)) :
    lists.flatten.length ≤ (lists.flatMap (List.dropWhile p)).length ↔
      ∀ list ∈ lists, ∀ x ∈ list.head?, p x = false := by
  induction lists with
  | nil => simp
  | cons list lists ih =>
    have hlist := (List.dropWhile_sublist p (l := list)).length_le
    have hlists := (flatMap_dropWhile_sublist (p := p) lists).length_le
    rw [List.forall_mem_cons, ← ih, ← length_le_dropWhile_iff, List.flatten_cons, List.flatMap_cons,
      List.length_append, List.length_append]
    omega

/-- **No more is dropped from the lists than from all of them together** if and only if each list after
the first one with an element without the property begins with such an element. -/
theorem dropWhile_suffix_iff (lists : List (List α)) :
    lists.flatten.dropWhile p <:+ lists.flatMap (List.dropWhile p) ↔
      ∀ list ∈ afterFirst p lists, ∀ x ∈ list.head?, p x = false := by
  induction lists with
  | nil => simp [afterFirst]
  | cons list lists ih =>
    rw [List.flatten_cons, List.flatMap_cons, List.dropWhile_append]
    cases hall : list.all p with
    | true =>
      have hnil : list.dropWhile p = [] :=
        List.dropWhile_eq_nil_iff.mpr (List.all_eq_true.mp hall)
      rw [hnil, if_pos List.isEmpty_nil, List.nil_append, ih, afterFirst, if_pos hall]
    | false =>
      have hne : ¬ (list.dropWhile p).isEmpty = true := by
        rw [List.isEmpty_iff, List.dropWhile_eq_nil_iff, ← List.all_eq_true, hall]
        decide
      have hnot : ¬ list.all p = true := by rw [hall]; decide
      rw [if_neg hne, afterFirst, if_neg hnot, ← flatten_length_le_iff]
      constructor
      · intro h
        have := h.length_le
        rw [List.length_append, List.length_append] at this
        omega
      · intro h
        have heq := (flatMap_dropWhile_sublist lists).eq_of_length_le h
        exact ⟨[], by rw [heq, List.nil_append]⟩

end DropWhile

/-- What is kept of stretches is all there is from the first line on that follows the template, if
unmatched lines are kept or each later stretch begins with a line that follows the template. -/
theorem suffix_keptLines_iff (t : Template) (keep : Bool) (parts : List (List String)) :
    (withoutBlank parts.flatten).dropWhile t.rejects <:+ parts.flatMap (keptLines keep t) ↔
      keep = true ∨ ∀ part ∈ afterFirst t.rejects (parts.map withoutBlank),
        ∀ line ∈ part.head?, t.rejects line = false := by
  rw [withoutBlank_flatten]
  cases keep with
  | true =>
    have hkept : parts.flatMap (keptLines true t) = (parts.map withoutBlank).flatten :=
      List.flatMap_def
    rw [hkept]
    exact ⟨fun _ => .inl rfl, fun _ => List.dropWhile_suffix _⟩
  | false =>
    have hkept : parts.flatMap (keptLines false t) =
        (parts.map withoutBlank).flatMap (List.dropWhile t.rejects) := by
      rw [List.flatMap_map]
      rfl
    rw [hkept, dropWhile_suffix_iff]
    exact ⟨.inr, fun h => h.resolve_left (by decide)⟩

end LogIntake
