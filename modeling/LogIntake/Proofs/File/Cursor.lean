import LogIntake.Proofs.File.Lines

/-!
# How far a source has read

The file may grow, shrink or be missing at any moment, it may give fewer bytes than it is asked for, and
each of its operations may fail.

* `TailSource.Call`, `TailSource.run`: calls on a source, and what they deliver.
* `Occupies`: the bytes that lines take up, their line feeds included.
* `Cursor.Moves`: how a poll moves the cursor, and what it delivers.
* `Cursor.poll_eq_ok_iff`: a poll that succeeds moves the cursor in this way.
* `Cursor.Moves.position_le`: the cursor stays within the size that was seen last.
* **`cursor_of_calls`**: so it is after any calls, and nothing but a poll that succeeds moves the cursor.
-/

namespace LogIntake

variable {File : Type}

/-- Reading never gives more bytes than are asked for. -/
def FileView.IsBounded (view : FileView) : Prop :=
  ∀ start stop bytes, view.read start stop = .ok bytes → bytes.length ≤ stop - start

namespace TailSource

/-- A call on a source. A poll finds the open file as it is at that moment. -/
inductive Call (File : Type) where
  | openFile (systems : FileSystems File)
  | closeFile
  | poll (view : File → FileView)

/-- The file object that a call meets never gives more bytes than it is asked for. -/
def Call.IsBounded : Call File → Prop
  | .poll view => ∀ file, (view file).IsBounded
  | .openFile _ | .closeFile => True

/-- The source after a call, with the batch of a poll that succeeds. A call that fails leaves the source
as it was. -/
def step (source : TailSource File) : Call File → TailSource File × Option Batch
  | .openFile systems => ((source.openFile systems).toOption.getD source, none)
  | .closeFile => (source.closeFile, none)
  | .poll view =>
    match source.poll view with
    | .ok (batch, source) => (source, some batch)
    | .error _ => (source, none)

/-- The source after calls, with the batches of the polls that succeed. -/
def run (source : TailSource File) : List (Call File) → TailSource File × List Batch
  | [] => (source, [])
  | call :: calls =>
    let (source, batch) := source.step call
    let (source, batches) := source.run calls
    (source, batch.toList ++ batches)

end TailSource

/-! ## One poll -/

/-- Lines stand at the beginning of bytes and take up so many of them, their line feeds included. What
follows the last line feed is a line only in a single pass. -/
def Occupies (tailing : Bool) (bytes : List UInt8) (lines : List String) (count : Nat) : Prop :=
  ∃ pieces rest, IsSplit bytes pieces rest ∧
    let unfinished := if tailing = true ∨ rest = [] then [] else [rest]
    lines = (pieces ++ unfinished).map lineOfBytes ∧
      count = (joinLines pieces ++ unfinished.flatten).length

/-- The bytes that a poll reads in a file of a given size: those behind the cursor, and none if there
are none. -/
def Cursor.Reads (c : Cursor) (view : FileView) (size : Nat) (bytes : List UInt8) : Prop :=
  size = c.position ∧ bytes = [] ∨ c.position < size ∧ view.read c.position size = .ok bytes

/-- **How a poll that succeeds moves the cursor, and which lines it delivers.** -/
inductive Cursor.Moves (tailing : Bool) (view : FileView) (c : Cursor) : List String → Cursor → Prop where
  /-- The file is smaller than it was: the poll delivers nothing and begins again. -/
  | restart {size : Nat} : view.size = .ok size → size < c.knownSize → Moves tailing view c [] {}
  /-- The file is not smaller: the cursor moves on behind the lines that are delivered. -/
  | advance {size count : Nat} {bytes : List UInt8} {lines : List String} :
      view.size = .ok size → c.knownSize ≤ size → c.Reads view size bytes →
        Occupies tailing bytes lines count → Moves tailing view c lines ⟨c.position + count, size⟩

variable {tailing : Bool} {view : FileView} {c c' : Cursor} {bytes : List UInt8} {lines : List String}
  {count : Nat}

/-- The lines that a poll makes of bytes take up the bytes that it consumes. -/
theorem occupies_taken (tailing : Bool) (bytes : List UInt8) :
    let taken := if tailing then completeLines bytes else bytes
    Occupies tailing bytes (linesOfBytes taken) taken.length := by
  obtain ⟨pieces, rest, hs⟩ := exists_isSplit bytes
  refine ⟨pieces, rest, hs, ?_⟩
  cases tailing with
  | true =>
    rw [if_pos rfl, hs.complete.linesOfBytes_eq, hs.completeLines_eq]
    simp
  | false =>
    have hlen := congrArg List.length hs.eq
    rw [if_neg Bool.false_ne_true, hs.linesOfBytes_eq]
    by_cases hrest : rest = []
    · simpa [hrest] using hlen
    · simpa [hrest] using hlen

/-- Bytes have only one beginning of lines. -/
theorem Occupies.eq_taken (h : Occupies tailing bytes lines count) :
    let taken := if tailing then completeLines bytes else bytes
    lines = linesOfBytes taken ∧ count = taken.length := by
  obtain ⟨pieces, rest, hs, hlines, hcount⟩ := h
  obtain ⟨pieces', rest', hs', hlines', hcount'⟩ := occupies_taken tailing bytes
  obtain ⟨rfl, rfl⟩ := hs.unique hs'
  exact ⟨hlines.trans hlines'.symm, hcount.trans hcount'.symm⟩

theorem Occupies.count_le (h : Occupies tailing bytes lines count) : count ≤ bytes.length := by
  obtain ⟨pieces, rest, hs, -, rfl⟩ := h
  rw [hs.eq, List.length_append, List.length_append]
  split
  · simp
  · simp

theorem FileView.isBounded_ofBytes (bytes : List UInt8) : (FileView.ofBytes bytes).IsBounded := by
  intro start stop read hread
  obtain rfl : sliceBytes bytes start stop = read := Except.ok.inj hread
  rw [sliceBytes, List.length_drop, List.length_take]
  omega

theorem occupies_nil (tailing : Bool) : Occupies tailing [] [] 0 :=
  ⟨[], [], IsSplit.nil, by simp, by simp [joinLines_nil]⟩

theorem Cursor.Reads.length_le (h : c.Reads view size bytes) (hview : view.IsBounded) :
    c.position + bytes.length ≤ size := by
  rcases h with ⟨hsize, rfl⟩ | ⟨hlt, hread⟩
  · exact Nat.le_of_eq hsize.symm
  · have := hview _ _ _ hread
    omega

theorem Cursor.Moves.position_le (h : c.Moves tailing view lines c') (hview : view.IsBounded) :
    c'.position ≤ c'.knownSize := by
  cases h with
  | restart => exact Nat.le_refl 0
  | advance _ _ hreads hoccupies =>
    exact Nat.le_trans (Nat.add_le_add_left hoccupies.count_le _) (hreads.length_le hview)

/-- **A poll succeeds exactly by moving the cursor**, as long as the cursor stands within the size that
was seen last. -/
theorem Cursor.poll_eq_ok_iff (h : c.position ≤ c.knownSize) :
    c.poll tailing view = .ok (lines, c') ↔ c.Moves tailing view lines c' := by
  constructor
  · intro hpoll
    obtain ⟨size, hsize, hcases⟩ := Cursor.poll_cases hpoll
    rcases hcases with ⟨hshrunk, rfl, rfl⟩ | ⟨hknown, hpos, rfl, rfl⟩ |
      ⟨hknown, hpos, bytes, taken, hread, rfl, rfl, rfl⟩
    · exact .restart hsize (by omega)
    · exact .advance hsize hknown (.inl ⟨hpos, rfl⟩) (occupies_nil tailing)
    · exact .advance hsize hknown (.inr ⟨hpos, hread⟩) (occupies_taken tailing bytes)
  · intro hmoves
    cases hmoves with
    | restart hsize hshrunk => simp [Cursor.poll, Cursor.plan, hsize, hshrunk]
    | @advance size count bytes lines hsize hknown hreads hoccupies =>
      obtain ⟨rfl, rfl⟩ := hoccupies.eq_taken
      have hgrown : ¬ (decide (size < c.knownSize) || decide (size < c.position)) = true := by
        simp only [Bool.or_eq_true, decide_eq_true_eq]
        omega
      rcases hreads with ⟨hpos, rfl⟩ | ⟨hpos, hread⟩
      · have hplan : c.plan size = .rest := by rw [Cursor.plan, if_neg hgrown, if_pos hpos]
        have hnone : (if tailing = true then completeLines [] else []) = [] := by
          cases tailing <;> rfl
        simp only [Cursor.poll, hsize, hplan, hnone]
        rfl
      · have hplan : c.plan size = .read c.position size := by
          rw [Cursor.plan, if_neg hgrown, if_neg (Nat.ne_of_gt hpos)]
        simp only [Cursor.poll, hsize, hplan, hread]

/-! ## Any calls -/

namespace TailSource

variable {source source' : TailSource File} {call : Call File} {batch : Batch}

/-- A poll delivers a batch exactly if a file is open and the cursor moves. -/
theorem step_poll_eq_iff (h : source.cursor.position ≤ source.cursor.knownSize)
    {view : File → FileView} : source.step (.poll view) = (source', some batch) ↔
      ∃ file cursor, source.file = some file ∧
        source.cursor.Moves source.tailing (view file) batch.lines cursor ∧
        batch.atEnd = !source.tailing ∧ source' = { source with cursor } := by
  constructor
  · intro hstep
    rw [step] at hstep
    split at hstep
    · next hpoll =>
      simp only [Prod.mk.injEq, Option.some.injEq] at hstep
      obtain ⟨rfl, rfl⟩ := hstep
      obtain ⟨file, cursor, hfile, hcursor, hend, hsource⟩ := poll_cases hpoll
      exact ⟨file, cursor, hfile, (Cursor.poll_eq_ok_iff h).mp hcursor, hend, hsource⟩
    · simp at hstep
  · rintro ⟨file, cursor, hfile, hmoves, hend, rfl⟩
    obtain ⟨lines, atEnd⟩ := batch
    subst hend
    simp only [step, TailSource.poll, hfile, (Cursor.poll_eq_ok_iff h).mpr hmoves, Except.map]

/-- A call that delivers no batch changes nothing but the file that is open. -/
theorem step_of_nothing (h : (source.step call).2 = none) :
    ∃ file, (source.step call).1 = { source with file } := by
  cases call with
  | openFile systems => exact source.openFile_keeps systems
  | closeFile => exact ⟨none, rfl⟩
  | poll view =>
    rw [step] at h ⊢
    split at h
    · exact absurd h (by simp)
    · exact ⟨source.file, rfl⟩

theorem step_cursor_of_nothing (h : (source.step call).2 = none) :
    (source.step call).1.cursor = source.cursor := by
  obtain ⟨file, hsource⟩ := step_of_nothing h
  rw [hsource]

/-- **No call takes the cursor beyond the size that was seen last.** -/
theorem position_le_step (h : source.cursor.position ≤ source.cursor.knownSize)
    (hcall : call.IsBounded) :
    (source.step call).1.cursor.position ≤ (source.step call).1.cursor.knownSize := by
  cases hbatch : (source.step call).2 with
  | none =>
    rw [step_cursor_of_nothing hbatch]
    exact h
  | some batch =>
    cases call with
    | openFile | closeFile => exact absurd hbatch (by simp [step])
    | poll view =>
      have hstep : source.step (.poll view) = ((source.step (.poll view)).1, some batch) :=
        Prod.ext rfl hbatch
      obtain ⟨file, cursor, -, hmoves, -, hsource⟩ := (step_poll_eq_iff h).mp hstep
      rw [hsource]
      exact hmoves.position_le (hcall file)

theorem position_le_run (calls : List (Call File))
    (h : source.cursor.position ≤ source.cursor.knownSize)
    (hcalls : ∀ call ∈ calls, call.IsBounded) :
    (source.run calls).1.cursor.position ≤ (source.run calls).1.cursor.knownSize := by
  induction calls generalizing source with
  | nil => exact h
  | cons call calls ih =>
    obtain ⟨hcall, hcalls⟩ := List.forall_mem_cons.mp hcalls
    exact ih (position_le_step h hcall) hcalls

/-- **After any calls on a source the cursor stands within the size that was seen last**, however the
file grows and shrinks and whatever fails. A call that delivers no batch leaves the cursor as it was: an
opening, a closing and a poll that fails. A poll delivers a batch exactly if a file is open and the cursor
moves; then it begins again without a line, which it does exactly if the file is smaller than it was, or
moves on behind the lines that it delivers. -/
theorem cursor_of_calls {name : String} {connection : Connection}
    (hnew : TailSource.new name connection = .ok source) (calls : List (Call File))
    (hcalls : ∀ call ∈ calls, call.IsBounded) :
    let s := (source.run calls).1
    s.cursor.position ≤ s.cursor.knownSize ∧
      (∀ call, (s.step call).2 = none → (s.step call).1.cursor = s.cursor) ∧
      (∀ call batch, (s.step call).2 = some batch → ∃ view, call = .poll view) ∧
      ∀ view batch s', s.step (.poll view) = (s', some batch) ↔ ∃ file cursor, s.file = some file ∧
        s.cursor.Moves s.tailing (view file) batch.lines cursor ∧ batch.atEnd = !s.tailing ∧
        s' = { s with cursor } := by
  intro s
  have hstart : source.cursor = {} := by
    rw [TailSource.new] at hnew
    cases hread : Uri.read connection.uri with
    | error e => simp [hread, Except.map] at hnew
    | ok uri =>
      simp only [hread, Except.map, Except.ok.injEq] at hnew
      rw [← hnew]
  have hposition : s.cursor.position ≤ s.cursor.knownSize :=
    position_le_run calls (Nat.le_of_eq (by rw [hstart])) hcalls
  refine ⟨hposition, fun call => step_cursor_of_nothing, fun call batch hbatch => ?_,
    fun view batch s' => step_poll_eq_iff hposition⟩
  cases call with
  | openFile | closeFile => exact absurd hbatch (by simp [step])
  | poll view => exact ⟨view, rfl⟩

/-- A file gets smaller between the look at its size and the reading: of seven bytes four are read and
three consumed. When the file is found smaller than seven bytes the source begins again. -/
theorem cursor_of_calls_shortRead : ∃ source : TailSource String,
    TailSource.new "app" { uri := "/log" } = .ok source ∧
      let systems : FileSystems String := ⟨[("file", localFileSystem fun _ => .ok (.file []))]⟩
      let file := FileView.ofBytes (Text.Utf8.encode "ab\nc".toList)
      let s := (source.run [.openFile systems, .poll fun _ => { file with size := .ok 7 }]).1
      s.cursor = ⟨3, 7⟩ ∧ s.cursor.position ≤ s.cursor.knownSize ∧
        s.step (.poll fun _ => file) = ({ s with cursor := {} }, some {}) := by
  have hnew : TailSource.new "app" { uri := "/log" } = .ok
      ({ name := "app", uri := .ofPath "/log", credentials := none, tailing := true } :
        TailSource String) := rfl
  refine ⟨_, hnew, ?_⟩
  intro systems file s
  have hbounded : ∀ call ∈ ([.openFile systems, .poll fun _ => { file with size := .ok 7 }] :
      List (Call String)), call.IsBounded := by
    refine List.forall_mem_cons.mpr ⟨trivial, List.forall_mem_singleton.mpr fun _ => ?_⟩
    exact FileView.isBounded_ofBytes _
  obtain ⟨hposition, -, -, hpoll⟩ := cursor_of_calls hnew _ hbounded
  have hcursor : s.cursor = ⟨3, 7⟩ := by decide
  refine ⟨hcursor, hposition, (hpoll _ _ _).mpr ⟨"/log", {}, by decide, ?_, by decide, rfl⟩⟩
  have hsize : file.size = .ok 4 := rfl
  exact .restart hsize (by rw [hcursor]; decide)

end TailSource

end LogIntake
