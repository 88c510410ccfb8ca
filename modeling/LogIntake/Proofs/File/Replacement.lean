import LogIntake.Proofs.File.Cursor
import LogIntake.Proofs.File.Growth

/-!
# A file that is replaced

A file is replaced by another one under its name, as when logs are rotated. The source notices it at the
next poll that succeeds, if the file is smaller than it was.

* `TailSource.run_of_nothing`: calls that deliver nothing change nothing but the file that is open.
* `TailSource.poll_smaller`: a poll of a smaller file delivers nothing and begins again.
* `Following.content_prefix`: a file that only grows keeps what it holds.
* **`lines_of_replaced`**: the lines of the new file are delivered from its first byte on, each once and in
  order, and nothing of the old file is joined to them.
-/

namespace LogIntake

variable {File : Type}

namespace TailSource

variable {source restarted : TailSource File} {batch : Batch}

theorem run_of_nothing {calls : List (Call File)} (h : (source.run calls).2 = []) :
    ∃ file, (source.run calls).1 = { source with file } := by
  induction calls generalizing source with
  | nil => exact ⟨source.file, rfl⟩
  | cons call calls ih =>
    have hnone : (source.step call).2.toList ++ ((source.step call).1.run calls).2 = [] := h
    obtain ⟨hfirst, hlater⟩ := List.append_eq_nil_iff.mp hnone
    obtain ⟨file, hsource⟩ := step_of_nothing (Option.toList_eq_nil_iff.mp hfirst)
    obtain ⟨file', hend⟩ := ih hlater
    refine ⟨file', ?_⟩
    change ((source.step call).1.run calls).1 = _
    rw [hend, hsource]

theorem poll_smaller {g : Glimpse} {content : List UInt8}
    (hsmaller : content.length < source.cursor.knownSize)
    (h : source.poll (fun _ => g.view content) = .ok (batch, restarted)) :
    batch.lines = [] ∧ restarted = { source with cursor := {} } := by
  obtain ⟨file, cursor, -, hpoll, -, hsource⟩ := poll_cases h
  obtain ⟨size, hsize, hcases⟩ := Cursor.poll_cases hpoll
  obtain rfl := g.eq_length_of_size hsize
  rcases hcases with ⟨-, hlines, rfl⟩ | ⟨hknown, -⟩ | ⟨hknown, -⟩
  · exact ⟨hlines, hsource⟩
  · exact absurd hsmaller (Nat.not_lt.mpr hknown)
  · exact absurd hsmaller (Nat.not_lt.mpr hknown)

end TailSource

/-! ## The new file -/

namespace Following

variable {f : Following File}

theorem content_prefix_step (f : Following File) (i : Incident File) :
    f.content <+: (f.step i).content := by
  cases i with
  | append bytes => exact List.prefix_append _ _
  | openFile systems => exact List.prefix_refl _
  | closeFile => exact List.prefix_refl _
  | poll g =>
    rw [step]
    split <;> exact List.prefix_append _ _

theorem content_prefix (f : Following File) (incidents : List (Incident File)) :
    f.content <+: (f.run incidents).content := by
  induction incidents generalizing f with
  | nil => exact List.prefix_refl _
  | cons i incidents ih => exact (f.content_prefix_step i).trans (ih _)

end Following

/-- **After a file has been replaced by a smaller one, the lines of the new file are delivered**, whatever
the state of the source. Until the poll that notices it nothing is delivered, whatever the source meets and
however often it is opened and closed. That poll delivers nothing. The polls after it that succeed deliver
the complete lines that the new file holds at the last of them, each once and in order. -/
theorem lines_of_replaced {source restarted : TailSource File} (htailing : source.tailing = true)
    {waiting : List (TailSource.Call File)} (hwaiting : (source.run waiting).2 = [])
    {content : List UInt8} (hsmaller : content.length < source.cursor.knownSize)
    {g : Glimpse} {batch : Batch}
    (hpoll : (source.run waiting).1.poll (fun _ => g.view content) = .ok (batch, restarted))
    (incidents : List (Incident File)) :
    let f := Following.run { source := restarted, content := content ++ g.meanwhile } incidents
    batch.lines = [] ∧ restarted.cursor = {} ∧ content <+: f.content ∧ f.seen <+: f.content ∧
      (∃ pieces rest, IsSplit f.seen pieces rest ∧ f.delivered = pieces.map lineOfBytes) ∧
      ∀ g : Glimpse, f.source.file.isSome = true → g.sizeFault = none → g.readFault = none →
        (f.step (.poll g)).seen = f.content := by
  intro f
  obtain ⟨file, hsource⟩ := TailSource.run_of_nothing hwaiting
  rw [hsource] at hpoll
  have hshrunk : content.length < ({ source with file } : TailSource File).cursor.knownSize := hsmaller
  obtain ⟨hlines, rfl⟩ := TailSource.poll_smaller hshrunk hpoll
  have hstart : Following.Sound (⟨{ source with file, cursor := {} }, content ++ g.meanwhile, [], []⟩ :
      Following File) [] [] :=
    ⟨htailing, List.nil_prefix, IsSplit.nil, rfl, rfl, by simp⟩
  obtain ⟨pieces, rest, h⟩ := hstart.run incidents
  have hkept : content ++ g.meanwhile <+: f.content :=
    Following.content_prefix ⟨{ source with file, cursor := {} }, content ++ g.meanwhile, [], []⟩ incidents
  exact ⟨hlines, rfl, (List.prefix_append _ _).trans hkept, h.grown, ⟨pieces, rest, h.split, h.delivered⟩,
    fun g => f.seen_poll⟩

/-- The old file ends in half a line when it is replaced. A poll fails, the source is closed and opened,
and while the next poll looks at the new file it grows by a line and a half. -/
theorem lines_of_replaced_halfLine :
    let bytes (s : String) : List UInt8 := Text.Utf8.encode s.toList
    let systems : FileSystems String := ⟨[("file", localFileSystem fun _ => .ok (.file []))]⟩
    let source := (TailSource.run
      { name := "app", uri := .ofPath "/log", credentials := none, tailing := true }
      [.openFile systems, .poll fun _ => .ofBytes (bytes "old\nhalf")]).1
    let waiting := [.poll fun _ => .ofFault .notFound, .closeFile, .openFile systems]
    (source.run waiting).2 = [] ∧ source.cursor = ⟨4, 8⟩ ∧ ∃ batch restarted,
      (source.run waiting).1.poll
        (fun _ => Glimpse.view { meanwhile := bytes "two\nthr" } (bytes "one\n")) =
          .ok (batch, restarted) ∧ batch.lines = [] ∧
      let f := Following.run { source := restarted, content := bytes "one\ntwo\nthr" }
        [.poll {}, .append (bytes "ee\n"), .poll {}]
      f.seen = bytes "one\ntwo\nthree\n" ∧ f.delivered = ["one", "two", "three"] ∧
        ∃ pieces rest, IsSplit f.seen pieces rest ∧ f.delivered = pieces.map lineOfBytes := by
  intro bytes systems source waiting
  have hpoll : (source.run waiting).1.poll
      (fun _ => Glimpse.view { meanwhile := bytes "two\nthr" } (bytes "one\n")) =
        .ok ({}, { source with cursor := {} }) := rfl
  have htailing : source.tailing = true := rfl
  have hwaiting : (source.run waiting).2 = [] := by decide
  have hsmaller : (bytes "one\n").length < source.cursor.knownSize := by decide
  obtain ⟨hlines, -, -, -, hsplit, -⟩ := lines_of_replaced htailing hwaiting hsmaller hpoll
    [.poll {}, .append (bytes "ee\n"), .poll {}]
  exact ⟨hwaiting, by decide, _, _, hpoll, hlines, by decide, by decide, hsplit⟩

end LogIntake
