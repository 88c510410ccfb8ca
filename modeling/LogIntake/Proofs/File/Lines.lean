import LogIntake.File.Tail
import LogIntake.Proofs.Text.Utf8
import Mathlib.Data.List.Forall2

/-!
# Bytes cut at their line feeds

* `joinLines`: lines put together again, a line feed after each.
* `IsSplit`: bytes are complete lines and what follows the last line feed.
* `IsLineText`: what text the bytes of a line are; **`isLineText_iff`**: it is the one a source makes of
  them. `not_mem_lineOfBytes`: it has no line feed.
* `IsSplit.splitLines_eq`, `IsSplit.completeLines_eq`, `IsSplit.linesOfBytes_eq`: what the functions
  of a poll make of such bytes.
* **`IsSplit.append`**: bytes that come later are joined to the unfinished line.
* `TextLine`: a line of a text with either end; `IsSplit.of_written`, `TextLine.IsProper.lineOfBytes_bytes`:
  what is made of such lines.
* `Cursor.poll_cases`, `TailSource.poll_cases`: all that a poll that succeeds can do.
* `TailSource.openFile_keeps`: an opening changes nothing but the file that is open.
-/

namespace LogIntake

/-- The bytes of complete lines. -/
def joinLines (pieces : List (List UInt8)) : List UInt8 :=
  pieces.flatMap (· ++ [lineFeed])

theorem joinLines_nil : joinLines [] = [] := rfl

theorem joinLines_cons (piece : List UInt8) (pieces : List (List UInt8)) :
    joinLines (piece :: pieces) = piece ++ lineFeed :: joinLines pieces := by
  simp [joinLines]

theorem joinLines_append (pieces later : List (List UInt8)) :
    joinLines (pieces ++ later) = joinLines pieces ++ joinLines later := by
  simp [joinLines]

/-- **The lines of bytes**: `pieces` are the complete ones without their line feeds, and `rest` is what
follows the last line feed. -/
structure IsSplit (bytes : List UInt8) (pieces : List (List UInt8)) (rest : List UInt8) : Prop where
  eq : bytes = joinLines pieces ++ rest
  free : ∀ piece ∈ pieces, lineFeed ∉ piece
  rest_free : lineFeed ∉ rest

/-- What text a line of bytes is: they are decoded as a whole, a stretch that is malformed becoming the
replacement character, and one carriage return at their end is no part of it. -/
inductive IsLineText : List UInt8 → String → Prop where
  | returned {bytes : List UInt8} :
      IsLineText (bytes ++ [carriageReturn]) (String.ofList (Text.Utf8.decodeLossy bytes))
  | plain {bytes : List UInt8} :
      bytes.getLast? ≠ some carriageReturn →
        IsLineText bytes (String.ofList (Text.Utf8.decodeLossy bytes))

/-- **A source makes of a line the text that it is.** -/
theorem isLineText_iff {piece : List UInt8} {line : String} :
    IsLineText piece line ↔ line = lineOfBytes piece := by
  constructor
  · intro h
    cases h with
    | returned => rw [lineOfBytes, if_pos List.getLast?_concat, List.dropLast_concat]
    | plain hlast => rw [lineOfBytes, if_neg hlast]
  · rintro rfl
    unfold lineOfBytes
    by_cases hlast : piece.getLast? = some carriageReturn
    · obtain ⟨bytes, rfl⟩ := List.getLast?_eq_some_iff.mp hlast
      rw [if_pos hlast, List.dropLast_concat]
      exact .returned
    · rw [if_neg hlast]
      exact .plain hlast

theorem forall₂_isLineText (pieces : List (List UInt8)) :
    List.Forall₂ IsLineText pieces (pieces.map lineOfBytes) := by
  rw [List.forall₂_map_right_iff, List.forall₂_same]
  exact fun piece _ => isLineText_iff.mpr rfl

theorem not_mem_lineOfBytes {piece : List UInt8} (h : lineFeed ∉ piece) :
    '\n' ∉ (lineOfBytes piece).toList := by
  intro hmem
  rw [lineOfBytes, String.toList_ofList] at hmem
  have hbyte := Text.Utf8.mem_of_mem_decodeLossy (by decide) (by decide) hmem
  split at hbyte
  · exact h (List.dropLast_subset _ hbyte)
  · exact h hbyte

/-! ## Splitting -/

theorem IsSplit.nil : IsSplit [] [] [] := ⟨rfl, by simp, by simp⟩

theorem exists_isSplit (bytes : List UInt8) : ∃ pieces rest, IsSplit bytes pieces rest := by
  induction bytes with
  | nil => exact ⟨[], [], IsSplit.nil⟩
  | cons b bytes ih =>
    obtain ⟨pieces, rest, h⟩ := ih
    by_cases hb : b = lineFeed
    · refine ⟨[] :: pieces, rest, ?_, ?_, h.rest_free⟩
      · rw [joinLines_cons, h.eq, hb]; rfl
      · intro piece hp
        rcases List.mem_cons.mp hp with rfl | hp
        · simp
        · exact h.free piece hp
    · cases pieces with
      | nil =>
        refine ⟨[], b :: rest, ?_, by simp, ?_⟩
        · rw [h.eq]; rfl
        · rw [List.mem_cons]
          rintro (e | hr)
          · exact hb e.symm
          · exact h.rest_free hr
      | cons piece pieces =>
        refine ⟨(b :: piece) :: pieces, rest, ?_, ?_, h.rest_free⟩
        · rw [h.eq, joinLines_cons, joinLines_cons]; simp
        · intro p hp
          rcases List.mem_cons.mp hp with rfl | hp
          · rw [List.mem_cons]
            rintro (e | hr)
            · exact hb e.symm
            · exact h.free piece List.mem_cons_self hr
          · exact h.free p (List.mem_cons_of_mem _ hp)

theorem splitLines_of_not_mem {piece : List UInt8} (h : lineFeed ∉ piece) :
    splitLines piece = [piece] := by
  induction piece with
  | nil => rfl
  | cons b piece ih =>
    rw [List.mem_cons, not_or] at h
    rw [splitLines, if_neg (Ne.symm h.1), ih h.2]

theorem splitLines_line {piece : List UInt8} (h : lineFeed ∉ piece) (later : List UInt8) :
    splitLines (piece ++ lineFeed :: later) = piece :: splitLines later := by
  induction piece with
  | nil => rw [List.nil_append, splitLines, if_pos rfl]
  | cons b piece ih =>
    rw [List.mem_cons, not_or] at h
    rw [List.cons_append, splitLines, if_neg (Ne.symm h.1), ih h.2]

namespace IsSplit

variable {bytes rest : List UInt8} {pieces : List (List UInt8)}

theorem splitLines_eq (h : IsSplit bytes pieces rest) : splitLines bytes = pieces ++ [rest] := by
  obtain ⟨rfl, hfree, hrest⟩ := h
  induction pieces with
  | nil => exact splitLines_of_not_mem hrest
  | cons piece pieces ih =>
    rw [joinLines_cons, List.append_assoc, List.cons_append,
      splitLines_line (hfree piece List.mem_cons_self),
      ih fun p hp => hfree p (List.mem_cons_of_mem _ hp)]
    rfl

/-- The complete lines and the rest are determined by the bytes. -/
theorem unique {pieces' : List (List UInt8)} {rest' : List UInt8} (h : IsSplit bytes pieces rest)
    (h' : IsSplit bytes pieces' rest') : pieces = pieces' ∧ rest = rest' := by
  have e : pieces ++ [rest] = pieces' ++ [rest'] := by rw [← h.splitLines_eq, h'.splitLines_eq]
  have := List.append_inj' e rfl
  exact ⟨this.1, (List.cons.inj this.2).1⟩

theorem completeLines_eq (h : IsSplit bytes pieces rest) :
    completeLines bytes = joinLines pieces := by
  obtain ⟨rfl, -, hrest⟩ := h
  have hback : ∀ b ∈ rest.reverse, (b != lineFeed) = true := fun b hb => by
    rw [bne_iff_ne]
    rintro rfl
    exact hrest (List.mem_reverse.mp hb)
  rw [completeLines, List.reverse_append, List.dropWhile_append_of_pos hback]
  rcases List.eq_nil_or_concat pieces with rfl | ⟨pieces, piece, rfl⟩
  · rfl
  · rw [List.concat_eq_append, joinLines_append, joinLines_cons, joinLines_nil]
    simp

theorem complete (h : IsSplit bytes pieces rest) : IsSplit (completeLines bytes) pieces [] :=
  ⟨by rw [h.completeLines_eq, List.append_nil], h.free, by simp⟩

theorem linesOfBytes_eq (h : IsSplit bytes pieces rest) :
    linesOfBytes bytes = pieces.map lineOfBytes ++ if rest = [] then [] else [lineOfBytes rest] := by
  rw [linesOfBytes, h.splitLines_eq]
  by_cases hr : rest = []
  · simp [hr]
  · simp [hr]

/-- **Bytes that come later are joined to the unfinished line.** -/
theorem append {more rest' : List UInt8} {pieces' : List (List UInt8)}
    (h : IsSplit bytes pieces rest) (h' : IsSplit (rest ++ more) pieces' rest') :
    IsSplit (bytes ++ more) (pieces ++ pieces') rest' := by
  refine ⟨?_, ?_, h'.rest_free⟩
  · rw [h.eq, List.append_assoc, h'.eq, joinLines_append, List.append_assoc]
  · intro piece hp
    rcases List.mem_append.mp hp with hp | hp
    · exact h.free piece hp
    · exact h'.free piece hp

/-- Bytes with the same complete part have the same complete lines. -/
theorem of_completeLines_eq {content : List UInt8} (h : IsSplit bytes pieces rest)
    (hc : completeLines bytes = completeLines content) : ∃ rest', IsSplit content pieces rest' := by
  obtain ⟨pieces', rest', h'⟩ := exists_isSplit content
  have hcomplete := h'.complete
  rw [← hc] at hcomplete
  rw [(h.complete.unique hcomplete).1]
  exact ⟨rest', h'⟩

end IsSplit

/-! ## Texts written to a file -/

/-- A line of a text, and whether a carriage return stands in front of its line feed. -/
structure TextLine where
  text : List Char
  returned : Bool := false

namespace TextLine

/-- The line as it stands in the text. -/
def written (line : TextLine) : List Char :=
  line.text ++ if line.returned then ['\r', '\n'] else ['\n']

/-- The bytes of the line without the line feed. -/
def bytes (line : TextLine) : List UInt8 :=
  Text.Utf8.encode line.text ++ if line.returned then [carriageReturn] else []

/-- The text has no line feed, and does not end in a carriage return. -/
structure IsProper (line : TextLine) : Prop where
  single : '\n' ∉ line.text
  ends : line.text.getLast? ≠ some '\r'

variable {line : TextLine}

theorem encode_written (line : TextLine) :
    Text.Utf8.encode line.written = line.bytes ++ [lineFeed] := by
  unfold written bytes
  rw [Text.Utf8.encode_append, List.append_assoc]
  cases line.returned <;> rfl

theorem IsProper.not_mem_bytes (h : line.IsProper) : lineFeed ∉ line.bytes := by
  unfold bytes
  intro hmem
  rcases List.mem_append.mp hmem with hmem | hmem
  · exact h.single (Text.Utf8.mem_of_mem_encode (by decide) hmem)
  · revert hmem
    cases line.returned <;> decide

/-- **With either end a line is read as its text.** -/
theorem IsProper.lineOfBytes_bytes (h : line.IsProper) :
    lineOfBytes line.bytes = String.ofList line.text := by
  have hread : String.ofList line.text =
      String.ofList (Text.Utf8.decodeLossy (Text.Utf8.encode line.text)) := by
    rw [Text.Utf8.decodeLossy_encode]
  rw [eq_comm, ← isLineText_iff, hread, bytes]
  cases line.returned with
  | true => exact .returned
  | false =>
    rw [if_neg Bool.false_ne_true, List.append_nil]
    exact .plain fun hlast => h.ends (Text.Utf8.getLast?_of_getLast?_encode (by decide) hlast)

end TextLine

/-- The lines of a text, and what follows them. -/
theorem IsSplit.of_written {lines : List TextLine} (hlines : ∀ line ∈ lines, line.IsProper)
    {rest : List UInt8} (hrest : lineFeed ∉ rest) :
    IsSplit (Text.Utf8.encode (lines.flatMap TextLine.written) ++ rest)
      (lines.map TextLine.bytes) rest := by
  refine ⟨?_, ?_, hrest⟩
  · congr 1
    induction lines with
    | nil => rfl
    | cons line lines ih =>
      obtain ⟨-, hlater⟩ := List.forall_mem_cons.mp hlines
      rw [List.flatMap_cons, Text.Utf8.encode_append, line.encode_written, ih hlater, List.map_cons,
        joinLines_cons, List.append_assoc, List.singleton_append]
  · intro piece hpiece
    obtain ⟨line, hline, rfl⟩ := List.mem_map.mp hpiece
    exact (hlines line hline).not_mem_bytes

/-! ## One poll -/

/-- A poll begins again, finds nothing new, or reads on from the cursor. -/
theorem Cursor.poll_cases {tailing : Bool} {view : FileView} {c c' : Cursor} {lines : List String}
    (h : c.poll tailing view = .ok (lines, c')) : ∃ size, view.size = .ok size ∧
      ((size < c.knownSize ∨ size < c.position) ∧ lines = [] ∧ c' = {} ∨
        c.knownSize ≤ size ∧ size = c.position ∧ lines = [] ∧ c' = ⟨c.position, size⟩ ∨
        c.knownSize ≤ size ∧ c.position < size ∧ ∃ bytes taken, view.read c.position size = .ok bytes ∧
          taken = (if tailing then completeLines bytes else bytes) ∧ lines = linesOfBytes taken ∧
          c' = ⟨c.position + taken.length, size⟩) := by
  unfold Cursor.poll at h
  cases hs : view.size with
  | error fault => simp [hs] at h
  | ok size =>
    refine ⟨size, rfl, ?_⟩
    simp only [hs, Cursor.plan] at h
    by_cases hshrunk : size < c.knownSize ∨ size < c.position
    · left
      simp only [Bool.or_eq_true, decide_eq_true_eq, if_pos hshrunk, Except.ok.injEq,
        Prod.mk.injEq] at h
      exact ⟨hshrunk, h.1.symm, h.2.symm⟩
    · right
      simp only [Bool.or_eq_true, decide_eq_true_eq, if_neg hshrunk] at h
      rw [not_or, Nat.not_lt, Nat.not_lt] at hshrunk
      by_cases hpos : size = c.position
      · left
        simp only [if_pos hpos, Except.ok.injEq, Prod.mk.injEq] at h
        exact ⟨hshrunk.1, hpos, h.1.symm, h.2.symm⟩
      · right
        simp only [if_neg hpos] at h
        cases hr : view.read c.position size with
        | error fault => simp [hr] at h
        | ok bytes =>
          simp only [hr, Except.ok.injEq, Prod.mk.injEq] at h
          exact ⟨hshrunk.1, by omega, bytes, _, rfl, rfl, h.1.symm, h.2.symm⟩

/-- An opening changes nothing but the file that is open, whether it succeeds or not. -/
theorem TailSource.openFile_keeps {File : Type} (source : TailSource File) (systems : FileSystems File) :
    ∃ file, (source.openFile systems).toOption.getD source = { source with file } := by
  unfold TailSource.openFile
  cases source.file with
  | some file => exact ⟨source.file, rfl⟩
  | none =>
    cases systems.openUri source.uri source.credentials with
    | ok file => exact ⟨some file, rfl⟩
    | error e => exact ⟨source.file, rfl⟩

theorem TailSource.poll_cases {File : Type} {view : File → FileView} {source source' : TailSource File}
    {batch : Batch} (h : source.poll view = .ok (batch, source')) :
    ∃ file cursor, source.file = some file ∧
      source.cursor.poll source.tailing (view file) = .ok (batch.lines, cursor) ∧
      batch.atEnd = !source.tailing ∧ source' = { source with cursor } := by
  unfold TailSource.poll at h
  cases hf : source.file with
  | none => simp [hf] at h
  | some file =>
    simp only [hf] at h
    cases hp : source.cursor.poll source.tailing (view file) with
    | error e => simp [hp, Except.map] at h
    | ok result =>
      simp only [hp, Except.map, Except.ok.injEq, Prod.mk.injEq] at h
      obtain ⟨rfl, rfl⟩ := h
      exact ⟨file, result.2, rfl, hp, rfl, rfl⟩

end LogIntake
