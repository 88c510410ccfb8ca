import LogIntake.Proofs.File.Growth
import LogIntake.Proofs.Receiver.Stretches

/-!
# A receiver that follows a file

A worker polls a source that follows a growing file, and decodes and pushes its lines.

* `Occurrence`: what can happen next; `Tailing`: the file, its source and the worker.
* `Tailing.Sound`: the worker reflects the batches of the source; kept by `Sound.step`, `Sound.run`.
* `LosesNoLine`: the raw lines of the events go on to the end from the first line that follows the
  template.
* **`pushed_of_tailing`**: the events hold the lines of each stretch between polls that bring none, so
  that a line is lost exactly where such a poll comes between a record and a line that continues it.
-/

namespace LogIntake

variable {File : Type}

/-- What can happen to a file, to the source that follows it and to the worker. The source answers
when the worker waits for it, and the owner may ask the worker to stop at any time. -/
inductive Occurrence (File : Type) where
  | append (bytes : List UInt8)
  | answerOpen (systems : FileSystems File)
  | answerPoll (glimpse : Glimpse)
  | tick
  | stop

/-- A growing file and its source, and the worker that polls the source. -/
structure Tailing (File : Type) where
  following : Following File
  worker : Worker

namespace Tailing

/-- A receiver that has not begun. -/
def start (name : String) (uri : Uri) (credentials : Option Credentials) (template : Template)
    (keep : Bool) (timestamp : TimestampParser) : Tailing File where
  following := { source := { name, uri, credentials, tailing := true } }
  worker :=
    { decoder := { source := name, assembler := { template, keepUnmatched := keep }, timestamp } }

/-- The worker goes on, and its source is closed if it asks for that. -/
def advance (settings : ReceiverSettings) (r : Tailing File) (input : Input) : Tailing File :=
  let worker := r.worker.step settings input
  let calls := worker.trace.drop r.worker.trace.length
  { worker
    following := if calls.any (·.call = .closeSource) then r.following.step .closeFile
      else r.following }

/-- What an occurrence changes. -/
def step (settings : ReceiverSettings) (r : Tailing File) : Occurrence File → Tailing File
  | .append bytes => { r with following := r.following.step (.append bytes) }
  | .answerOpen systems =>
    if r.worker.phase = .opening then
      { r with following := r.following.step (.openFile systems) }.advance settings
        (.opened ((r.following.source.openFile systems).map fun _ => ()))
    else r
  | .answerPoll glimpse =>
    if r.worker.phase = .polling then
      { r with following := r.following.step (.poll glimpse) }.advance settings
        (.polled ((r.following.answer glimpse).map Prod.fst))
    else r
  | .tick => r.advance settings .tick
  | .stop => r.advance settings .stop

/-- What a sequence of occurrences makes of a receiver. -/
def run (settings : ReceiverSettings) (r : Tailing File) (occurrences : List (Occurrence File)) :
    Tailing File :=
  occurrences.foldl (step settings) r

variable {settings : ReceiverSettings} {d : Decoder} {r : Tailing File}

/-- **The source has delivered the lines of the file, and the worker has pushed their events.** -/
structure Sound (settings : ReceiverSettings) (d : Decoder) (r : Tailing File) : Prop where
  source : ∃ pieces rest, r.following.Sound pieces rest
  worker : r.worker.Reflects settings d r.following.batches

/-- The worker goes on, after the source has delivered what the input brings. -/
theorem Sound.advance {input : Input} (hsource : ∃ pieces rest, r.following.Sound pieces rest)
    (hworker : (r.worker.step settings input).Reflects settings d r.following.batches) :
    (r.advance settings input).Sound settings d := by
  obtain ⟨pieces, rest, hsound⟩ := hsource
  rw [Tailing.advance]
  split
  · exact ⟨hsound.step .closeFile, hworker⟩
  · exact ⟨⟨pieces, rest, hsound⟩, hworker⟩

/-- A poll adds the batch that it brings to the worker. -/
theorem batches_poll (hphase : r.worker.phase = .polling) (glimpse : Glimpse) :
    (r.following.step (.poll glimpse)).batches = r.following.batches ++
      r.worker.brought (.polled ((r.following.answer glimpse).map Prod.fst)) := by
  rw [Following.step]
  cases r.following.answer glimpse with
  | ok result => exact congrArg (r.following.batches ++ ·) (if_pos hphase).symm
  | error e => exact (List.append_nil _).symm

/-- **No occurrence breaks the invariant.** -/
theorem Sound.step (h : r.Sound settings d) (o : Occurrence File) :
    (r.step settings o).Sound settings d := by
  obtain ⟨pieces, rest, hsound⟩ := h.source
  cases o with
  | append bytes => exact ⟨hsound.step (.append bytes), h.worker⟩
  | answerOpen systems =>
    rw [Tailing.step]
    split
    · refine Sound.advance (hsound.step (.openFile systems)) ?_
      have hworker := h.worker.step
        (.opened ((r.following.source.openFile systems).map fun _ => ()))
      rwa [show r.worker.brought (.opened _) = [] from rfl, List.append_nil] at hworker
    · exact h
  | answerPoll glimpse =>
    rw [Tailing.step]
    split
    · next hphase =>
      refine Sound.advance (hsound.step (.poll glimpse)) ?_
      have hworker := h.worker.step
        (.polled ((r.following.answer glimpse).map Prod.fst))
      rwa [← batches_poll hphase glimpse] at hworker
    · exact h
  | tick =>
    have hworker := h.worker.step .tick
    rw [show r.worker.brought .tick = [] from rfl, List.append_nil] at hworker
    exact Sound.advance h.source hworker
  | stop =>
    have hworker := h.worker.step .stop
    rw [show r.worker.brought .stop = [] from rfl, List.append_nil] at hworker
    exact Sound.advance h.source hworker

theorem Sound.run (h : r.Sound settings d) (occurrences : List (Occurrence File)) :
    (r.run settings occurrences).Sound settings d := by
  induction occurrences generalizing r with
  | nil => exact h
  | cons o occurrences ih => exact ih (h.step o)

theorem Sound.start (settings : ReceiverSettings) (name : String) (uri : Uri)
    (credentials : Option Credentials) (template : Template) (keep : Bool)
    (timestamp : TimestampParser) :
    (start name uri credentials template keep timestamp : Tailing File).Sound settings
      { source := name, assembler := { template, keepUnmatched := keep }, timestamp } :=
  ⟨⟨[], [], Following.Sound.start name uri credentials⟩, Worker.Reflects.fresh settings _⟩

end Tailing

/-! ## The lines of the events -/

/-- **No line is lost**: the raw lines of the events go on to the end from the first line that follows
the template, each once and in order. -/
def LosesNoLine (t : Template) (lines : List String) (events : List Event) : Prop :=
  (withoutBlank lines).dropWhile t.rejects <:+ events.flatMap fun e => rawLines e.raw

instance (t : Template) (lines : List String) (events : List Event) :
    Decidable (LosesNoLine t lines events) :=
  inferInstanceAs (Decidable (_ <:+ _))

/-- **What a receiver has pushed when it ends**, once a poll has seen all complete lines of the file:
the events hold the lines of each stretch between two polls that bring no line, save those that are
dropped before its first line that follows the template. So no line is lost if and only if unmatched
lines are kept or every stretch after the first such line begins with one. -/
theorem pushed_of_tailing (settings : ReceiverSettings) (hfilter : settings.filter = none)
    (name : String) (uri : Uri) (credentials : Option Credentials) (template : Template) (keep : Bool)
    (timestamp : TimestampParser) (occurrences : List (Occurrence File)) (r : Tailing File)
    (hrun : r = (Tailing.start name uri credentials template keep timestamp).run settings occurrences)
    (hdone : r.worker.phase = .done)
    (hseen : completeLines r.following.seen = completeLines r.following.content) :
    let parts := stretches r.following.batches
    ∃ pieces rest, IsSplit r.following.content pieces rest ∧
      parts.flatten = pieces.map lineOfBytes ∧
      (r.worker.pushed.flatMap fun e => rawLines e.raw) = parts.flatMap (keptLines keep template) ∧
      (LosesNoLine template (pieces.map lineOfBytes) r.worker.pushed ↔
        keep = true ∨ ∀ part ∈ afterFirst template.rejects (parts.map withoutBlank),
          ∀ line ∈ part.head?, template.rejects line = false) := by
  intro parts
  obtain ⟨⟨pieces, rest, hsource⟩, hworker⟩ := (Tailing.Sound.start settings name uri
    credentials template keep timestamp).run occurrences
  rw [← hrun] at hsource hworker
  obtain ⟨rest', hcontent⟩ := hsource.split.of_completeLines_eq hseen
  have hflatten : parts.flatten = pieces.map lineOfBytes := by
    obtain ⟨first, later, hparts, hlines⟩ := exists_stretches r.following.batches
    rw [← hsource.delivered, Following.delivered, ← hlines, ← List.flatten_cons, ← hparts]
  have hfree : ∀ line ∈ parts.flatten, '\n' ∉ line.toList := by
    rw [hflatten]
    intro line hline
    obtain ⟨piece, hpiece, rfl⟩ := List.mem_map.mp hline
    exact not_mem_lineOfBytes (hsource.split.free piece hpiece)
  have hpushed : (r.worker.pushed.flatMap fun e => rawLines e.raw) =
      parts.flatMap (keptLines keep template) := by
    have hraw := Decoder.raw_decodeBatches_of_cleared settings.surroundings
      { source := name, assembler := { template, keepUnmatched := keep }, timestamp }
      rfl hsource.notAtEnd
    rw [hworker.ended hdone, Worker.selected_of_none hfilter,
      ← List.flatMap_map Event.raw rawLines, hraw, List.flatMap_map]
    exact rawLines_stretches template keep hfree
  refine ⟨pieces, rest', hcontent, hflatten, hpushed, ?_⟩
  rw [LosesNoLine, hpushed, ← hflatten]
  exact suffix_keptLines_iff template keep parts

/-! ## A record with a line that comes later -/

namespace Tailing

/-- A file system that opens every file. -/
def openSystems : FileSystems Unit := ⟨[("file", { openFile := fun _ _ => .ok () })]⟩

/-- What a receiver needs to know of its surroundings. -/
def plainSettings : ReceiverSettings := { surroundings := ⟨⟨.utc, 1970⟩, fun _ => 0⟩ }

/-- The template `LEVEL - MESSAGE`. -/
def levelTemplate : Template where
  text := "LEVEL - MESSAGE"
  tokens := [.field .level, .gap, .literal ['-'], .gap, .field .message]
  timestampShape := none

/-- A receiver that drops unmatched lines polls a file with one record, and does `between`; then the
record gets a second line, which is polled, and the receiver is stopped. -/
def secondLineAfter (between : List (Occurrence Unit)) : Tailing Unit :=
  (start "app" { scheme := "file", path := "/log" } none levelTemplate false (.relative {})).run
    plainSettings <|
    [.append (Text.Utf8.encode "INFO - one\n".toList), .tick, .answerOpen openSystems,
      .answerPoll {}, .tick] ++ between ++
    [.append (Text.Utf8.encode "two\n".toList), .answerPoll {}, .stop, .tick]

/-- No line is lost if the next poll brings the second line. -/
theorem secondLineAfter_nothing : ∃ pieces rest,
    IsSplit (secondLineAfter []).following.content pieces rest ∧
      LosesNoLine levelTemplate (pieces.map lineOfBytes) (secondLineAfter []).worker.pushed := by
  obtain ⟨pieces, rest, hs, -, -, hiff⟩ := pushed_of_tailing plainSettings rfl "app"
    { scheme := "file", path := "/log" } none levelTemplate false (.relative {}) _
    (secondLineAfter []) rfl (by decide +kernel) (by decide +kernel)
  exact ⟨pieces, rest, hs, hiff.mpr (.inr (by decide +kernel))⟩

/-- **A poll that brings no line ends the record, so the line after it is lost.** -/
theorem secondLineAfter_idle_poll :
    let r := secondLineAfter [.answerPoll {}, .tick]
    r.worker.phase = .done ∧ r.following.seen = r.following.content ∧
      ¬ LosesNoLine levelTemplate (linesOfBytes r.following.content) r.worker.pushed := by
  decide +kernel

end Tailing

end LogIntake
