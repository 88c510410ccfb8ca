import LogIntake.Proofs.Text.Trim
import LogIntake.Text.Lines
import Mathlib.Data.List.Infix

/-!
# Lines and pieces

The lines of a text are its pieces between line feeds, but for a carriage return at their ends and for an
empty last piece.

* `split_of_not_mem`, `split_append_cons`, `split_append_flatMap`: the pieces of a text, one by one.
* `hasInfix_iff`: what occurs inside a text is an infix of it.
* `not_mem_of_mem_lines`: a line has no line feed.
* **`filterMap_lines`**: what looks neither at a carriage return at the end of a line nor at an empty line
  sees the pieces.
* `solidLines`: the lines that are not blank, trimmed; `solidLines_append_flatMap`: those of a text after
  which other lines follow.
-/

namespace LogIntake.Text

variable {sep : Char} {s : List Char}

/-! ## Pieces -/

theorem split_of_not_mem (h : sep ∉ s) : split sep s = [s] := by
  induction s with
  | nil => rfl
  | cons c s ih =>
    rw [List.mem_cons, not_or] at h
    rw [split, if_neg (Ne.symm h.1), ih h.2]

theorem split_append_cons (sep : Char) (s t : List Char) :
    split sep (s ++ sep :: t) = split sep s ++ split sep t := by
  induction s with
  | nil => exact if_pos rfl
  | cons c s ih =>
    rw [List.cons_append, split, split]
    split
    · rw [ih, List.cons_append]
    · rw [ih]
      cases h : split sep s with
      | nil => exact absurd h (split_ne_nil sep s)
      | cons piece pieces => rfl

theorem split_append_flatMap (s : List Char) {pieces : List (List Char)}
    (h : ∀ piece ∈ pieces, sep ∉ piece) :
    split sep (s ++ pieces.flatMap (sep :: ·)) = split sep s ++ pieces := by
  induction pieces generalizing s with
  | nil => rw [List.flatMap_nil, List.append_nil, List.append_nil]
  | cons piece pieces ih =>
    obtain ⟨hpiece, hrest⟩ := List.forall_mem_cons.mp h
    rw [List.flatMap_cons, List.cons_append, split_append_cons, ih piece hrest,
      split_of_not_mem hpiece, List.singleton_append]

theorem not_mem_of_mem_split {piece : List Char} (h : piece ∈ split sep s) : sep ∉ piece := by
  induction s generalizing piece with
  | nil =>
    rw [List.mem_singleton.mp h]
    exact List.not_mem_nil
  | cons c s ih =>
    rw [split] at h
    split at h
    · rcases List.mem_cons.mp h with rfl | h
      · exact List.not_mem_nil
      · exact ih h
    · next hc =>
      split at h
      · next hnil => exact absurd hnil (split_ne_nil sep s)
      · next first later hs =>
        rw [hs] at ih
        rcases List.mem_cons.mp h with rfl | h
        · rw [List.mem_cons, not_or]
          exact ⟨Ne.symm hc, ih List.mem_cons_self⟩
        · exact ih (List.mem_cons_of_mem first h)

theorem hasInfix_iff {part : List Char} : hasInfix part s = true ↔ part <:+: s := by
  induction s with
  | nil => simp [hasInfix]
  | cons c rest ih =>
    rw [hasInfix, Bool.or_eq_true, List.isPrefixOf_iff_prefix, ih, List.infix_cons_iff]

/-! ## Lines -/

theorem dropReturn_cases (line : List Char) :
    dropReturn line = line ∨ line = dropReturn line ++ ['\r'] := by
  unfold dropReturn
  split
  · next hlast => exact .inr (List.dropLast_append_getLast? _ hlast).symm
  · exact .inl rfl

theorem dropReturn_prefix (line : List Char) : dropReturn line <+: line := by
  rcases dropReturn_cases line with h | h
  · exact ⟨[], by rw [h, List.append_nil]⟩
  · exact ⟨['\r'], h.symm⟩

theorem linesOfPieces_cons_cons (piece next : List Char) (pieces : List (List Char)) :
    linesOfPieces (piece :: next :: pieces) = dropReturn piece :: linesOfPieces (next :: pieces) :=
  rfl

theorem exists_prefix_of_mem_linesOfPieces {pieces : List (List Char)} {line : List Char}
    (h : line ∈ linesOfPieces pieces) : ∃ piece ∈ pieces, line <+: piece := by
  induction pieces with
  | nil => exact absurd h List.not_mem_nil
  | cons piece pieces ih =>
    cases pieces with
    | nil =>
      rw [linesOfPieces] at h
      split at h
      · exact absurd h List.not_mem_nil
      · rw [List.mem_singleton.mp h]
        exact ⟨piece, List.mem_cons_self, List.prefix_rfl⟩
    | cons next pieces =>
      rw [linesOfPieces_cons_cons] at h
      rcases List.mem_cons.mp h with rfl | h
      · exact ⟨piece, List.mem_cons_self, dropReturn_prefix piece⟩
      · obtain ⟨other, hother, hline⟩ := ih h
        exact ⟨other, List.mem_cons_of_mem piece hother, hline⟩

/-- A line has no line feed. -/
theorem not_mem_of_mem_lines {line : List Char} (h : line ∈ lines s) : '\n' ∉ line := by
  obtain ⟨piece, hpiece, hline⟩ := exists_prefix_of_mem_linesOfPieces h
  exact fun hmem => not_mem_of_mem_split hpiece (hline.subset hmem)

section FilterMap

variable {β : Type} {f : List Char → Option β} (hreturn : ∀ line, f (dropReturn line) = f line)
  (hempty : f [] = none)
include hreturn hempty

theorem filterMap_linesOfPieces (pieces : List (List Char)) :
    (linesOfPieces pieces).filterMap f = pieces.filterMap f := by
  induction pieces with
  | nil => rfl
  | cons piece pieces ih =>
    cases pieces with
    | nil =>
      rw [linesOfPieces]
      split
      · next h => rw [List.isEmpty_iff.mp h, List.filterMap_cons, hempty]
      · rfl
    | cons next pieces =>
      rw [linesOfPieces_cons_cons, List.filterMap_cons, List.filterMap_cons, hreturn, ih]

/-- **What looks neither at a carriage return at the end of a line nor at an empty line sees the
pieces.** -/
theorem filterMap_lines (s : List Char) :
    (lines s).filterMap f = (split '\n' s).filterMap f :=
  filterMap_linesOfPieces hreturn hempty _

end FilterMap

/-! ## Lines that are not blank -/

/-- A line without the white space around it, unless it is blank. -/
def solid? (line : List Char) : Option (List Char) :=
  if (trim line).isEmpty then none else some (trim line)

/-- The lines of a text that are not blank, trimmed. -/
def solidLines (s : List Char) : List (List Char) :=
  (lines s).filterMap solid?

theorem trim_dropReturn (line : List Char) : trim (dropReturn line) = trim line := by
  rcases dropReturn_cases line with h | h
  · rw [h]
  · have hreturn : ∀ c ∈ ['\r'], isBlank c = true := fun c hc => by
      rw [List.mem_singleton.mp hc]
      rfl
    conv_rhs => rw [h]
    rw [trim_eq_trimStart_trimEnd, trim_eq_trimStart_trimEnd, trimEnd_append_of_blank hreturn]

theorem solid?_dropReturn (line : List Char) : solid? (dropReturn line) = solid? line := by
  rw [solid?, trim_dropReturn, solid?]

theorem solidLines_eq (s : List Char) : solidLines s = (split '\n' s).filterMap solid? :=
  filterMap_lines solid?_dropReturn rfl s

theorem solid?_eq_none_iff {line : List Char} : solid? line = none ↔ isAllBlank line = true := by
  rw [← trim_eq_nil_iff, solid?]
  split
  · next h => exact iff_of_true rfl (List.isEmpty_iff.mp h)
  · next h => exact iff_of_false (Option.some_ne_none _) fun hnil => h (by rw [hnil]; rfl)

theorem solid?_of_mem {line : List Char} (h : line ∈ solidLines s) :
    '\n' ∉ line ∧ solid? line = some line := by
  obtain ⟨piece, hpiece, hsolid⟩ := List.mem_filterMap.mp (solidLines_eq s ▸ h)
  rw [solid?] at hsolid
  split at hsolid
  · cases hsolid
  · next hne =>
    cases hsolid
    refine ⟨fun hmem => not_mem_of_mem_split hpiece (trim_subset piece hmem), ?_⟩
    rw [solid?, trim_trim, if_neg hne]

theorem solidLines_of_not_mem (h : '\n' ∉ s) : solidLines s = (solid? s).toList := by
  rw [solidLines_eq, split_of_not_mem h, List.filterMap_cons, List.filterMap_nil]
  cases solid? s <;> rfl

/-- The lines of a text after which other lines follow. -/
theorem solidLines_append_flatMap (s : List Char) {later : List (List Char)}
    (h : ∀ line ∈ later, '\n' ∉ line) :
    solidLines (s ++ later.flatMap ('\n' :: ·)) = solidLines s ++ later.filterMap solid? := by
  rw [solidLines_eq, split_append_flatMap s h, List.filterMap_append, solidLines_eq]

end LogIntake.Text
