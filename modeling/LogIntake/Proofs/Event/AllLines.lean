import LogIntake.Event.Basic
import LogIntake.Proofs.Text.Lines

/-!
# An event on all its lines

* `Event.header`, `Event.body`: the columns in brackets, and what is shown of the message;
  `Event.toList_full`: an event on all its lines is the one and then the other.
* `Event.firstLine_eq`: the line that stands next to the columns is the first one that is not blank.
* `Event.solidLines_body`: the first line of the message is always left out, even where it is blank and
  another one stands next to the columns.
* **`Event.full_shows_once_iff`**: every line is shown once, unless the message begins with a blank line and
  has others.
-/

namespace LogIntake

open Text

namespace Event

variable {zone : Calendar.Zone} {timeFormat : List Calendar.Item}

/-! ## Columns and message -/

/-- The columns before the message, each in brackets and with a blank after it, without those that are
empty. -/
def header (zone : Calendar.Zone) (timeFormat : List Calendar.Item) (e : Event) : List Char :=
  ((e.columns zone timeFormat).filter (· ≠ "")).flatMap fun column => '[' :: column.toList ++ [']', ' ']

/-- What is shown of the message. -/
def body (e : Event) : List Char :=
  firstLine e.message.toList ++ ((lines e.message.toList).drop 1).flatMap ('\n' :: ·)

theorem toList_intercalate_brackets (columns : List String) (last : String) :
    (String.intercalate " " (columns.map (fun column => "[" ++ column ++ "]") ++ [last])).toList =
      (columns.flatMap fun column => '[' :: column.toList ++ [']', ' ']) ++ last.toList := by
  induction columns with
  | nil => rw [List.map_nil, List.nil_append, String.intercalate_singleton]; rfl
  | cons column columns ih =>
    rw [List.map_cons, List.cons_append, String.intercalate_cons_of_ne_nil (by simp),
      String.toList_append, ih]
    simp

theorem toList_preview (e : Event) : (e.preview zone timeFormat maxDetail).toList =
    e.header zone timeFormat ++ firstLine e.message.toList := by
  rw [preview, toList_intercalate_brackets, String.toList_ofList]
  rfl

theorem toList_laterLines (e : Event) :
    e.laterLines.toList = ((lines e.message.toList).drop 1).flatMap ('\n' :: ·) := by
  rw [laterLines, String.toList_join, List.flatMap_map]
  simp

/-- An event on all its lines is its columns and what is shown of its message. -/
theorem toList_full (e : Event) :
    (e.full zone timeFormat).toList = e.header zone timeFormat ++ e.body := by
  rw [full, String.toList_append, toList_preview, toList_laterLines, List.append_assoc, body]

/-! ## Lines that are shown -/

/-- The line next to the columns is the first one that is not blank. -/
theorem firstLine_eq (text : List Char) : firstLine text = (solidLines text).head?.getD text := by
  have hfind : ∀ pieces : List (List Char),
      (pieces.map trim).find? (!·.isEmpty) = (pieces.filterMap solid?).head? := by
    intro pieces
    induction pieces with
    | nil => rfl
    | cons piece pieces ih =>
      rw [List.map_cons, List.find?_cons, List.filterMap_cons, solid?]
      cases (trim piece).isEmpty
      · rfl
      · exact ih
  rw [firstLine, hfind, solidLines_eq]

theorem solidLines_firstLine (text : List Char) :
    solidLines (firstLine text) = (solidLines text).take 1 := by
  rw [firstLine_eq]
  cases h : solidLines text with
  | nil => exact h
  | cons first rest =>
    obtain ⟨hfree, hsolid⟩ := solid?_of_mem (h ▸ List.mem_cons_self : first ∈ solidLines text)
    rw [List.head?_cons, Option.getD_some, solidLines_of_not_mem hfree, hsolid]
    rfl

/-- Whether a message begins with a blank line. -/
def beginsBlank (e : Event) : Bool :=
  (lines e.message.toList).head?.all isAllBlank

/-- The lines of a message are its first one, unless it is blank, and the later ones. -/
theorem solidLines_message (e : Event) : solidLines e.message.toList =
    (if e.beginsBlank then [] else (solidLines e.message.toList).take 1) ++
      ((lines e.message.toList).drop 1).filterMap solid? := by
  unfold beginsBlank solidLines
  cases lines e.message.toList with
  | nil => rfl
  | cons first rest =>
    cases hblank : isAllBlank first with
    | true => simp [hblank, solid?_eq_none_iff.mpr hblank]
    | false =>
      obtain ⟨line, hline⟩ : ∃ line, solid? first = some line := by
        rw [← Option.ne_none_iff_exists', Ne, solid?_eq_none_iff, hblank]
        exact Bool.false_ne_true
      simp [hblank, hline]

/-- What is shown of a message is its lines, after one of them that stands there twice if the message
begins with a blank line. -/
theorem solidLines_body (e : Event) : solidLines e.body =
    (if e.beginsBlank then (solidLines e.message.toList).take 1 else []) ++
      solidLines e.message.toList := by
  have hlater : ∀ line ∈ (lines e.message.toList).drop 1, '\n' ∉ line := fun line hline =>
    not_mem_of_mem_lines (List.mem_of_mem_drop hline)
  have hmessage := e.solidLines_message
  rw [body, solidLines_append_flatMap _ hlater, solidLines_firstLine]
  split at hmessage
  · next h => rw [if_pos h, hmessage, List.nil_append]
  · next h => rw [if_neg h, List.nil_append, ← hmessage]

/-- **Every line of a message is shown once, unless it begins with a blank line and has others.** Behind
the columns stand the lines of the message, without white space around them and without blank ones, and in
front of them the first of these once more if the first line of the message is blank. -/
theorem full_shows_once_iff (zone : Calendar.Zone) (timeFormat : List Calendar.Item) (e : Event) :
    (e.full zone timeFormat).toList = e.header zone timeFormat ++ e.body ∧
      solidLines e.body = (if e.beginsBlank then (solidLines e.message.toList).take 1 else []) ++
        solidLines e.message.toList ∧
      (solidLines e.body = solidLines e.message.toList ↔
        (e.beginsBlank → ∀ line ∈ lines e.message.toList, isAllBlank line)) := by
  refine ⟨e.toList_full, e.solidLines_body, ?_⟩
  have hnone : (solidLines e.message.toList).take 1 = [] ↔
      ∀ line ∈ lines e.message.toList, isAllBlank line = true := by
    rw [List.take_eq_nil_iff, or_iff_right Nat.one_ne_zero, solidLines, List.filterMap_eq_nil_iff]
    exact forall₂_congr fun _ _ => solid?_eq_none_iff
  rw [e.solidLines_body, List.append_left_eq_self]
  split
  · next h => rw [hnone, forall_prop_of_true h]
  · next h => exact iff_of_true rfl fun h' => absurd h' h

/-- A record without a message of its own and with two lines after it. -/
def continuedRecord : Event :=
  { source := "app", level := "INFO", message := "\nfirst\nsecond" }

/-- **The first line after an empty message is shown twice.** -/
theorem not_shown_once_continuedRecord :
    (continuedRecord.full .utc Calendar.timeColumn).toList =
        continuedRecord.header .utc Calendar.timeColumn ++ "first\nfirst\nsecond".toList ∧
      solidLines "first\nfirst\nsecond".toList ≠ solidLines continuedRecord.message.toList := by
  decide +kernel

end Event

end LogIntake
