import LogIntake.Proofs.File.Lines

/-!
# Following a file that grows

Others append to a file while a source follows it. The source may be opened, closed and polled at any
moment, and any poll may fail.

* `Glimpse`: how a poll finds the file; `Incident`: what can happen next.
* `Following`: the file and its source, with the batches of the polls that succeeded.
* `Following.Sound`: the cursor stands behind the lines delivered; kept by `Sound.step`, `Sound.run`.
* **`lines_of_following`**: every complete line is delivered once and in order.
-/

namespace LogIntake

/-- How a poll finds a file: what is appended between the look at its size and the reading, and whether
one of the two fails. -/
structure Glimpse where
  meanwhile : List UInt8 := []
  sizeFault : Option Fault := none
  readFault : Option Fault := none

/-- The view of a file that holds `content` as the poll begins. -/
def Glimpse.view (g : Glimpse) (content : List UInt8) : FileView where
  size := match g.sizeFault with
    | some fault => .error fault
    | none => (FileView.ofBytes content).size
  read start stop := match g.readFault with
    | some fault => .error fault
    | none => (FileView.ofBytes (content ++ g.meanwhile)).read start stop

variable {File : Type}

/-- What can happen to a file and to the source that follows it. -/
inductive Incident (File : Type) where
  | append (bytes : List UInt8)
  | openFile (systems : FileSystems File)
  | closeFile
  | poll (glimpse : Glimpse)

/-- A file that only grows, and a source that follows it. -/
structure Following (File : Type) where
  source : TailSource File
  content : List UInt8 := []
  /-- What the file held at the last poll that succeeded. -/
  seen : List UInt8 := []
  /-- What the polls that succeeded have delivered. -/
  batches : List Batch := []

namespace Following

/-- The lines delivered so far. -/
def delivered (f : Following File) : List String :=
  f.batches.flatMap Batch.lines

/-- The answer of the source to a poll. -/
def answer (f : Following File) (g : Glimpse) : Except SourceError (Batch × TailSource File) :=
  f.source.poll fun _ => g.view f.content

/-- What an incident changes. A call that fails leaves the source as it was. -/
def step (f : Following File) : Incident File → Following File
  | .append bytes => { f with content := f.content ++ bytes }
  | .openFile systems => { f with source := (f.source.openFile systems).toOption.getD f.source }
  | .closeFile => { f with source := f.source.closeFile }
  | .poll g =>
    match f.answer g with
    | .ok (batch, source) =>
      { source, content := f.content ++ g.meanwhile, seen := f.content,
        batches := f.batches ++ [batch] }
    | .error _ => { f with content := f.content ++ g.meanwhile }

/-- What a sequence of incidents makes of a file and its source. -/
def run (f : Following File) (incidents : List (Incident File)) : Following File :=
  incidents.foldl step f

/-- **The cursor stands behind the complete lines of what has been seen, and these are delivered.** -/
structure Sound (f : Following File) (pieces : List (List UInt8)) (rest : List UInt8) : Prop where
  tailing : f.source.tailing = true
  grown : f.seen <+: f.content
  split : IsSplit f.seen pieces rest
  cursor : f.source.cursor = ⟨(joinLines pieces).length, f.seen.length⟩
  delivered : f.delivered = pieces.map lineOfBytes
  notAtEnd : ∀ batch ∈ f.batches, batch.atEnd = false

end Following

/-! ## One poll of a file that has grown -/

theorem drop_sliceBytes {front back meanwhile : List UInt8} :
    sliceBytes (front ++ back ++ meanwhile) front.length (front ++ back).length = back := by
  rw [sliceBytes, List.take_left, List.drop_left]

/-- A look at the size that succeeds sees how many bytes the file holds. -/
theorem Glimpse.eq_length_of_size {g : Glimpse} {content : List UInt8} {size : Nat}
    (h : (g.view content).size = .ok size) : size = content.length := by
  cases hf : g.sizeFault with
  | some fault => simp [Glimpse.view, hf] at h
  | none => simpa [Glimpse.view, FileView.ofBytes, hf] using h.symm

/-- A poll that succeeds delivers the lines completed since the last one. -/
theorem Cursor.poll_grown {g : Glimpse} {seen content rest : List UInt8} {pieces : List (List UInt8)}
    {c' : Cursor} {lines : List String} (hs : IsSplit seen pieces rest) (hg : seen <+: content)
    (h : Cursor.poll true (g.view content) ⟨(joinLines pieces).length, seen.length⟩ =
      .ok (lines, c')) :
    ∃ pieces' rest', IsSplit content (pieces ++ pieces') rest' ∧ lines = pieces'.map lineOfBytes ∧
      c' = ⟨(joinLines (pieces ++ pieces')).length, content.length⟩ := by
  obtain ⟨more, rfl⟩ := hg
  have hseen : seen = joinLines pieces ++ rest := hs.eq
  have hlen : (seen ++ more).length = (joinLines pieces).length + (rest ++ more).length := by
    rw [hseen]; simp only [List.length_append]; omega
  obtain ⟨size, hsize, hcases⟩ := Cursor.poll_cases h
  have hsize : size = (seen ++ more).length := g.eq_length_of_size hsize
  rcases hcases with ⟨hshrunk, -, -⟩ | ⟨-, hpos, rfl, rfl⟩ | ⟨-, -, bytes, taken, hread, rfl, rfl, rfl⟩
  · simp only [List.length_append] at hshrunk hsize hlen
    omega
  · -- nothing lies behind the cursor, so there is no unfinished line either
    have hnone : (rest ++ more).length = 0 := by simp only at hpos; omega
    have hrest := List.append_eq_nil_iff.mp (List.eq_nil_of_length_eq_zero hnone)
    refine ⟨[], [], ?_, rfl, ?_⟩
    · rw [hrest.2, List.append_nil, List.append_nil]
      exact hrest.1 ▸ hs
    · rw [List.append_nil, hsize]
  · have hbytes : bytes = rest ++ more := by
      cases hf : g.readFault with
      | some fault => simp [Glimpse.view, hf] at hread
      | none =>
        simp only [Glimpse.view, FileView.ofBytes, hf, Except.ok.injEq, hsize, hseen] at hread
        rw [← hread, List.append_assoc (joinLines pieces), drop_sliceBytes]
    obtain ⟨pieces', rest', hs'⟩ := exists_isSplit (rest ++ more)
    refine ⟨pieces', rest', hs.append hs', ?_, ?_⟩
    · rw [if_pos rfl, hbytes, hs'.complete.linesOfBytes_eq, if_pos rfl, List.append_nil]
    · rw [if_pos rfl, hbytes, hs'.completeLines_eq, joinLines_append, List.length_append, hsize]

namespace Following

variable {f : Following File} {pieces : List (List UInt8)} {rest : List UInt8}

theorem Sound.start (name : String) (uri : Uri) (credentials : Option Credentials) :
    Sound { source := ({ name, uri, credentials, tailing := true } : TailSource File) } [] [] :=
  ⟨rfl, List.prefix_refl _, IsSplit.nil, rfl, rfl, by simp⟩

theorem Sound.poll (h : f.Sound pieces rest) {g : Glimpse} {batch : Batch} {source : TailSource File}
    (ha : f.answer g = .ok (batch, source)) : ∃ pieces' rest', (f.step (.poll g)).Sound pieces' rest' := by
  obtain ⟨file, cursor, -, hpoll, hend, rfl⟩ := TailSource.poll_cases ha
  rw [h.tailing, h.cursor] at hpoll
  obtain ⟨pieces', rest', hs, hlines, hcursor⟩ := Cursor.poll_grown h.split h.grown hpoll
  refine ⟨pieces ++ pieces', rest', ?_⟩
  rw [step, ha]
  refine ⟨h.tailing, List.prefix_append _ _, hs, hcursor, ?_, fun b hb => ?_⟩
  · have hd : f.batches.flatMap Batch.lines = pieces.map lineOfBytes := h.delivered
    rw [Following.delivered, List.flatMap_append, hd, List.map_append, ← hlines,
      List.flatMap_singleton]
  · rcases List.mem_append.mp hb with hb | hb
    · exact h.notAtEnd b hb
    · rw [List.mem_singleton.mp hb, hend, h.tailing]; rfl

/-- **No incident breaks the invariant.** -/
theorem Sound.step (h : f.Sound pieces rest) (i : Incident File) :
    ∃ pieces' rest', (f.step i).Sound pieces' rest' := by
  cases i with
  | append bytes =>
    exact ⟨pieces, rest, { h with grown := h.grown.trans (List.prefix_append _ _) }⟩
  | closeFile => exact ⟨pieces, rest, { h with }⟩
  | openFile systems =>
    obtain ⟨file, hsource⟩ := f.source.openFile_keeps systems
    refine ⟨pieces, rest, ?_⟩
    rw [Following.step, hsource]
    exact { h with }
  | poll g =>
    cases ha : f.answer g with
    | ok result => exact h.poll ha
    | error e =>
      refine ⟨pieces, rest, ?_⟩
      rw [Following.step, ha]
      exact { h with grown := h.grown.trans (List.prefix_append _ _) }

theorem Sound.run (h : f.Sound pieces rest) (incidents : List (Incident File)) :
    ∃ pieces' rest', (f.run incidents).Sound pieces' rest' := by
  induction incidents generalizing f pieces rest with
  | nil => exact ⟨pieces, rest, h⟩
  | cons i incidents ih =>
    obtain ⟨pieces', rest', h'⟩ := h.step i
    exact ih h'

end Following

/-! ## The lines of a whole history -/

/-- A poll of an open file in which nothing fails sees all that the file holds. -/
theorem Following.seen_poll (f : Following File) {g : Glimpse} (hfile : f.source.file.isSome = true)
    (hsize : g.sizeFault = none) (hread : g.readFault = none) :
    (f.step (.poll g)).seen = f.content := by
  obtain ⟨file, hfile⟩ := Option.isSome_iff_exists.mp hfile
  have hpoll : ∃ result, f.source.cursor.poll f.source.tailing (g.view f.content) = .ok result := by
    unfold Cursor.poll
    simp only [Glimpse.view, FileView.ofBytes, hsize, hread]
    split <;> exact ⟨_, rfl⟩
  obtain ⟨result, hpoll⟩ := hpoll
  have hanswer : f.answer g =
      .ok (⟨result.1, !f.source.tailing⟩, { f.source with cursor := result.2 }) := by
    simp only [Following.answer, TailSource.poll, hfile, hpoll]
    rfl
  rw [Following.step, hanswer]

/-- A first poll in a single pass reads all there is. -/
theorem Cursor.poll_whole (content meanwhile : List UInt8) :
    Cursor.poll false (Glimpse.view { meanwhile } content) {} =
      .ok (linesOfBytes content, ⟨content.length, content.length⟩) := by
  by_cases hc : content = []
  · rw [hc]; rfl
  · have hlen : content.length ≠ 0 := fun h => hc (List.eq_nil_of_length_eq_zero h)
    have hread : sliceBytes (content ++ meanwhile) 0 content.length = content := by
      rw [sliceBytes, List.take_left, List.drop_zero]
    simp [Cursor.poll, Cursor.plan, Glimpse.view, FileView.ofBytes, hlen, hread]

/-- A file read once gives its complete lines, and what follows them if there is anything. -/
theorem TailSource.poll_once {content rest : List UInt8} {pieces : List (List UInt8)}
    (hs : IsSplit content pieces rest) (name : String) (uri : Uri) (credentials : Option Credentials)
    (file : File) (meanwhile : List UInt8) :
    (TailSource.poll (fun _ => Glimpse.view { meanwhile } content)
      { name, uri, credentials, tailing := false, file := some file }).map Prod.fst =
        .ok ⟨pieces.map lineOfBytes ++ if rest = [] then [] else [lineOfBytes rest], true⟩ := by
  rw [← hs.linesOfBytes_eq]
  simp only [TailSource.poll, Cursor.poll_whole, Except.map, Bool.not_false]

/-- **A text that is written to a file is delivered line by line**, with either line end and however it is
cut, as soon as a poll has seen it. -/
theorem Following.Sound.delivered_of_written {f : Following File} {pieces : List (List UInt8)}
    {rest rest' : List UInt8} (h : f.Sound pieces rest) {lines : List TextLine}
    (hlines : ∀ line ∈ lines, line.IsProper)
    (hseen : f.seen = Text.Utf8.encode (lines.flatMap TextLine.written) ++ rest')
    (hrest : lineFeed ∉ rest') : f.delivered = lines.map fun line => String.ofList line.text := by
  have hsplit := IsSplit.of_written hlines hrest
  rw [← hseen] at hsplit
  rw [h.delivered, (h.split.unique hsplit).1, List.map_map]
  exact List.map_congr_left fun line hline => (hlines line hline).lineOfBytes_bytes

/-- **Every complete line is delivered once and in order, whenever the polls come and whichever fail.** It
is delivered as the text that its bytes are; lines of a text come out as they were written, with either line
end. A source that reads the same content in a single pass delivers the same lines and the rest. A poll
of an open file in which nothing fails sees all that the file holds. -/
theorem lines_of_following (name : String) (uri : Uri) (credentials : Option Credentials)
    (incidents : List (Incident File)) :
    let f := Following.run { source := { name, uri, credentials, tailing := true } } incidents
    (∃ pieces rest, IsSplit f.seen pieces rest ∧ f.delivered = pieces.map lineOfBytes ∧
      List.Forall₂ IsLineText pieces f.delivered ∧
      ∀ (file : File) (meanwhile : List UInt8),
        (TailSource.poll (fun _ => Glimpse.view { meanwhile } f.seen)
          { name, uri, credentials, tailing := false, file := some file }).map Prod.fst =
            .ok ⟨f.delivered ++ if rest = [] then [] else [lineOfBytes rest], true⟩) ∧
      (∀ (lines : List TextLine) (rest : List UInt8), (∀ line ∈ lines, line.IsProper) → lineFeed ∉ rest →
        f.seen = Text.Utf8.encode (lines.flatMap TextLine.written) ++ rest →
          f.delivered = lines.map fun line => String.ofList line.text) ∧
      ∀ g : Glimpse, f.source.file.isSome = true → g.sizeFault = none → g.readFault = none →
        (f.step (.poll g)).seen = f.content := by
  intro f
  obtain ⟨pieces, rest, h⟩ := (Following.Sound.start name uri credentials).run incidents
  refine ⟨⟨pieces, rest, h.split, h.delivered, ?_, fun file meanwhile => ?_⟩,
    fun lines rest' hlines hrest hseen => h.delivered_of_written hlines hseen hrest, fun g => f.seen_poll⟩
  · rw [h.delivered]
    exact forall₂_isLineText pieces
  · rw [h.delivered]
    exact TailSource.poll_once h.split name uri credentials file meanwhile

/-- One poll comes in the middle of a character, the next one between a carriage return and its line feed,
and the last one in the middle of a character again. -/
theorem lines_of_following_cutCharacter :
    let systems : FileSystems Unit := ⟨[("file", { openFile := fun _ _ => .ok () })]⟩
    let f := Following.run
      { source := { name := "app", uri := { scheme := "file", path := "/log" }, credentials := none
                    tailing := true } }
      [.openFile systems, .append [0x61, 0x0A, 0xC3], .poll {}, .append [0xA9, 0x0D], .poll {},
        .append [0x0A, 0xC3], .poll {}]
    f.seen = Text.Utf8.encode "a\né\r\n".toList ++ [0xC3] ∧ f.delivered = ["a", "é"] ∧
      ∃ pieces rest, IsSplit f.seen pieces rest ∧ List.Forall₂ IsLineText pieces f.delivered := by
  intro systems f
  obtain ⟨⟨pieces, rest, hsplit, -, htexts, -⟩, hlines, -⟩ :=
    lines_of_following "app" { scheme := "file", path := "/log" } none
      [.openFile systems, .append [0x61, 0x0A, 0xC3], .poll {}, .append [0xA9, 0x0D], .poll {},
        .append [0x0A, 0xC3], .poll {}]
  have hproper : ∀ line ∈ [⟨"a".toList, false⟩, ⟨"é".toList, true⟩], TextLine.IsProper line := by
    intro line hline
    rcases List.mem_pair.mp hline with rfl | rfl
    · exact ⟨by decide, by decide⟩
    · exact ⟨by decide, by decide⟩
  have hseen : f.seen = Text.Utf8.encode "a\né\r\n".toList ++ [0xC3] := by decide
  exact ⟨hseen, hlines _ _ hproper (by decide) hseen, pieces, rest, hsplit, htexts⟩

end LogIntake
