import LogIntake.Proofs.Receiver.Protocol

/-!
# What a single pass reads

* `Happening.polled?`, `Happening.isClosing`: the answers to polls in a history, and those that close the
  source for good; `loses`: and those that lose it.
* `Worker.delivered_eq`: the batches that come are those of the successful polls.
* `Worker.Searching`: all polls so far have lost the source; `Worker.Concludes`: all but the last one have.
* `Worker.Passes`: a worker that is to read its source once, after a history; **`Passes.step`**: kept by every
  input.
* **`polls_of_single_pass`**: such a worker ends with its first poll that does not lose the source, whether
  that poll has succeeded or has failed for now.
* `single_pass_unread`: so it may end with nothing read.
-/

namespace LogIntake

/-! ## Answers in a history -/

namespace Happening

/-- The answer to a poll. -/
def polled? : Happening → Option (Except SourceError Batch)
  | .polled result => some result
  | .opened _ | .ended | .called _ => none

/-- The source says that it is closed for good. -/
def isClosing : Happening → Bool
  | .opened (.error .closed) | .polled (.error .closed) => true
  | _ => false

end Happening

/-- The poll has lost the source. -/
def loses : Except SourceError Batch → Bool
  | .error e => e.isLoss
  | .ok _ => false

namespace Worker

variable {settings : ReceiverSettings} {w : Worker} {history : List Happening} {input : Input}

/-- The answers to polls in a step are those that the worker takes. -/
theorem polled?_happenings (w : Worker) (input : Input) :
    (w.happenings settings input).filterMap Happening.polled? =
      (w.answered input).filterMap Happening.polled? := by
  have hcalls : ∀ calls : List Observation,
      (calls.map Happening.called).filterMap Happening.polled? = [] := by
    intro calls
    rw [List.filterMap_map]
    exact List.filterMap_eq_nil_iff.mpr fun _ _ => rfl
  rw [happenings, List.filterMap_append, List.filterMap_append, hcalls, List.append_nil]
  split
  · exact List.append_nil _
  · exact List.append_nil _

/-- Only an answer of the source says that it is closed for good. -/
theorem mem_answered_of_isClosing {x : Happening} (hx : x ∈ w.happenings settings input)
    (hclosing : x.isClosing = true) : x ∈ w.answered input := by
  rw [happenings, List.mem_append, List.mem_append] at hx
  rcases hx with (hx | hx) | hx
  · exact hx
  · split at hx
    · rw [List.mem_singleton.mp hx] at hclosing
      cases hclosing
    · exact absurd hx List.not_mem_nil
  · obtain ⟨o, -, rfl⟩ := List.mem_map.mp hx
    cases hclosing

theorem mem_happenings_of_mem_answered {x : Happening} (hx : x ∈ w.answered input) :
    x ∈ w.happenings settings input :=
  List.mem_append_left _ (List.mem_append_left _ hx)

/-- A batch comes with each successful poll. -/
theorem brought_eq (w : Worker) (input : Input) :
    w.brought input = ((w.answered input).filterMap Happening.polled?).filterMap Except.toOption := by
  cases input with
  | polled result =>
    by_cases hphase : w.phase = .polling
    · cases result <;> simp [brought, answered, hphase, Happening.polled?, Except.toOption]
    · cases result <;> simp [brought, answered, hphase]
  | opened result =>
    rw [answered]
    split <;> rfl
  | tick | stop => rfl

/-- **The batches that come are those of the successful polls.** -/
theorem delivered_eq (w : Worker) (inputs : List Input) :
    w.delivered settings inputs =
      ((w.history settings inputs).filterMap Happening.polled?).filterMap Except.toOption := by
  induction inputs generalizing w with
  | nil => rfl
  | cons input inputs ih =>
    rw [delivered, Worker.history, List.filterMap_append, List.filterMap_append, polled?_happenings,
      brought_eq, ih]

/-! ## One pass -/

/-- As long as a worker reads its source, all its polls have lost the source, and the source is not closed for
good. -/
structure Searching (history : List Happening) : Prop where
  allLost : ∀ result ∈ history.filterMap Happening.polled?, loses result = true
  notClosed : ∀ x ∈ history, x.isClosing = false

/-- The last poll is the first one that does not lose the source. -/
def Concludes (history : List Happening) : Prop :=
  ∃ losses last, history.filterMap Happening.polled? = losses ++ [last] ∧
    (∀ result ∈ losses, loses result = true) ∧ loses last = false

/-- A worker that is to read its source once, after a history. It ends because it was asked to, because the
source is closed for good, or with the first poll that does not lose the source. -/
structure Passes (w : Worker) (history : List Happening) : Prop where
  running : w.phase ≠ .done → Searching history
  ended : w.phase = .done →
    w.signal.closed = true ∨ (∃ x ∈ history, x.isClosing = true) ∨ Concludes history

namespace Passes

/-- The worker goes on: what it has taken loses the source, or has nothing to do with polls. -/
theorem of_running (h : Searching history) (hrunning : (w.step settings input).phase ≠ .done)
    (hlost : ∀ result ∈ (w.answered input).filterMap Happening.polled?, loses result = true)
    (hopen : ∀ x ∈ w.answered input, x.isClosing = false) :
    (w.step settings input).Passes (history ++ w.happenings settings input) := by
  refine ⟨fun _ => ⟨?_, ?_⟩, fun hdone => absurd hdone hrunning⟩
  · rw [List.filterMap_append, polled?_happenings, List.forall_mem_append]
    exact ⟨h.allLost, hlost⟩
  · rw [List.forall_mem_append]
    refine ⟨h.notClosed, fun x hx => Bool.eq_false_iff.mpr fun hclosing => ?_⟩
    have hnot := hopen x (mem_answered_of_isClosing hx hclosing)
    rw [hclosing] at hnot
    cases hnot

/-- The source says that it is closed for good. -/
theorem of_closing {x : Happening} (hx : x ∈ w.answered input) (hclosing : x.isClosing = true)
    (hdone : (w.step settings input).phase = .done) :
    (w.step settings input).Passes (history ++ w.happenings settings input) :=
  ⟨fun hne => absurd hdone hne, fun _ =>
    .inr (.inl ⟨x, List.mem_append_right _ (mem_happenings_of_mem_answered hx), hclosing⟩)⟩

/-- The worker ends with a poll that does not lose the source. -/
theorem of_settling (h : Searching history) {result : Except SourceError Batch}
    (hanswered : w.answered input = [.polled result]) (hkept : loses result = false)
    (hdone : (w.step settings input).phase = .done) :
    (w.step settings input).Passes (history ++ w.happenings settings input) := by
  have hpolls : (history ++ w.happenings settings input).filterMap Happening.polled? =
      history.filterMap Happening.polled? ++ [result] := by
    rw [List.filterMap_append, polled?_happenings, hanswered]
    rfl
  exact ⟨fun hne => absurd hdone hne, fun _ => .inr (.inr ⟨_, result, hpolls, h.allLost, hkept⟩)⟩

/-- An input that the worker takes no answer from, and that does not end it. -/
theorem of_silent (h : w.Passes history) (hanswered : w.answered input = [])
    (hphase : (w.step settings input).phase = .done ↔ w.phase = .done)
    (hstop : w.signal.closed = true → (w.step settings input).signal.closed = true) :
    (w.step settings input).Passes (history ++ w.happenings settings input) := by
  by_cases hdone : w.phase = .done
  · refine ⟨fun hne => absurd (hphase.mpr hdone) hne, fun _ => ?_⟩
    rcases h.ended hdone with hasked | ⟨x, hx, hclosing⟩ | ⟨losses, last, hpolls, hend⟩
    · exact .inl (hstop hasked)
    · exact .inr (.inl ⟨x, List.mem_append_left _ hx, hclosing⟩)
    · refine .inr (.inr ⟨losses, last, ?_, hend⟩)
      rw [List.filterMap_append, polled?_happenings, hanswered, hpolls]
      exact List.append_nil _
  · exact of_running (h.running hdone) (mt hphase.mp hdone) (by simp [hanswered]) (by simp [hanswered])

theorem fresh (d : Decoder) : Passes { decoder := d } [] :=
  ⟨fun _ => ⟨by simp, by simp⟩, fun hdone => by cases hdone⟩

theorem opened (h : Searching history) (hphase : w.phase = .opening) (result : Except SourceError Unit) :
    (w.step settings (.opened result)).Passes (history ++ w.happenings settings (.opened result)) := by
  have hstep : w.step settings (.opened result) = w.onOpened settings result := if_pos hphase
  have hanswered : w.answered (.opened result) = [.opened result] := if_pos hphase
  have hnone : (w.answered (.opened result)).filterMap Happening.polled? = [] := by
    rw [hanswered]
    rfl
  cases result with
  | ok _ =>
    exact of_running h (by simp [hstep, onOpened, call]) (by simp [hnone])
      (by simp [hanswered, Happening.isClosing])
  | error e =>
    cases e with
    | closed => exact of_closing (hanswered ▸ List.mem_singleton_self _) rfl (by rw [hstep]; rfl)
    | unreachable | lost | transient =>
      exact of_running h (by simp [hstep, onOpened]) (by simp [hnone])
        (by simp [hanswered, Happening.isClosing])

/-- A failure for now settles a single pass just as a batch does: both go on to `Worker.afterPoll`. -/
theorem polled (hsingle : settings.tailing = false) (h : Searching history) (hphase : w.phase = .polling)
    (result : Except SourceError Batch) :
    (w.step settings (.polled result)).Passes (history ++ w.happenings settings (.polled result)) := by
  have hstep : w.step settings (.polled result) = w.onPolled settings result := if_pos hphase
  have hanswered : w.answered (.polled result) = [.polled result] := if_pos hphase
  have hafter : ∀ w' : Worker, (w'.afterPoll settings).phase = .done := by
    intro w'
    rw [afterPoll, hsingle]
    rfl
  cases result with
  | ok batch => exact of_settling h hanswered rfl (by rw [hstep]; exact hafter _)
  | error e =>
    cases e with
    | transient => exact of_settling h hanswered rfl (by rw [hstep]; exact hafter _)
    | closed => exact of_closing (hanswered ▸ List.mem_singleton_self _) rfl (by rw [hstep]; rfl)
    | unreachable | lost =>
      exact of_running h (by simp [hstep, onPolled, call])
        (by simp [hanswered, Happening.polled?, loses, SourceError.isLoss])
        (by simp [hanswered, Happening.isClosing])

/-- A wait is over, or the worker is given time to go on. -/
theorem ticked (h : w.Passes history) :
    (w.step settings .tick).Passes (history ++ w.happenings settings .tick) := by
  have hstep : w.step settings .tick = w.onTick settings := rfl
  rw [onTick] at hstep
  cases hphase : w.phase with
  | opening | polling | done =>
    have hsame : w.step settings .tick = w := by rw [hstep, hphase]
    exact of_silent h rfl (by rw [hsame]) (by rw [hsame]; exact id)
  | ready | retrying | idle =>
    rw [hphase] at hstep
    cases hstop : w.signal.closed with
    | true =>
      have hfinish : w.step settings .tick = w.finish settings := hstep.trans (if_pos hstop)
      rw [hfinish]
      exact ⟨fun hne => absurd rfl hne, fun _ => .inl hstop⟩
    | false => exact of_silent h rfl (by simp [hstep, hstop, hphase, call]) (by simp [hstop])

/-- **What every input keeps of a single pass.** -/
theorem step (hsingle : settings.tailing = false) (h : w.Passes history) (input : Input) :
    (w.step settings input).Passes (history ++ w.happenings settings input) := by
  cases input with
  | opened result =>
    by_cases hphase : w.phase = .opening
    · exact opened (h.running (by simp [hphase])) hphase result
    · have hsame : w.step settings (.opened result) = w := if_neg hphase
      exact of_silent h (if_neg hphase) (by rw [hsame]) (by rw [hsame]; exact id)
  | polled result =>
    by_cases hphase : w.phase = .polling
    · exact polled hsingle (h.running (by simp [hphase])) hphase result
    · have hsame : w.step settings (.polled result) = w := if_neg hphase
      exact of_silent h (if_neg hphase) (by rw [hsame]) (by rw [hsame]; exact id)
  | tick => exact ticked h
  | stop => exact of_silent h rfl Iff.rfl fun _ => rfl

/-- **What a run keeps of a single pass.** -/
theorem run (hsingle : settings.tailing = false) (h : w.Passes history) (inputs : List Input) :
    (w.run settings inputs).Passes (history ++ w.history settings inputs) := by
  induction inputs generalizing w history with
  | nil => rwa [Worker.history, List.append_nil]
  | cons input inputs ih =>
    rw [Worker.history, ← List.append_assoc]
    exact ih (h.step hsingle input)

end Passes

end Worker

/-- A poll that does not lose the source and does not find it closed for good has succeeded, or has failed for
now. -/
theorem ok_or_transient_of_kept {result : Except SourceError Batch} (hkept : loses result = false)
    (hopen : (Happening.polled result).isClosing = false) :
    (∃ batch, result = .ok batch) ∨ ∃ reason, result = .error (.transient reason) := by
  cases result with
  | ok batch => exact .inl ⟨batch, rfl⟩
  | error e =>
    cases e with
    | transient reason => exact .inr ⟨reason, rfl⟩
    | closed => cases hopen
    | unreachable | lost => cases hkept

/-- **A single pass ends with the first poll that does not lose the source.** A worker that reads its source
once, is not asked to stop and does not find the source closed for good has ended with a poll that succeeded
or failed for now, after polls that all lost the source, and has pushed the events of that poll alone. So a
poll has succeeded exactly if none has failed for now. -/
theorem polls_of_single_pass (settings : ReceiverSettings) (hsingle : settings.tailing = false) (d : Decoder)
    (inputs : List Input) :
    let w : Worker := { decoder := d }
    let r := w.run settings inputs
    let history := w.history settings inputs
    let polls := history.filterMap Happening.polled?
    r.phase = .done → r.signal.closed = false → (∀ x ∈ history, x.isClosing = false) →
      (∃ losses last, polls = losses ++ [last] ∧ (∀ result ∈ losses, loses result = true) ∧
        ((∃ batch, last = .ok batch) ∨ ∃ reason, last = .error (.transient reason)) ∧
        w.delivered settings inputs = last.toOption.toList) ∧
      ((∃ batch, .ok batch ∈ polls) ↔ ∀ reason, .error (.transient reason) ∉ polls) := by
  intro w r history polls hdone hunasked hopen
  have hpasses : r.Passes history := (Worker.Passes.fresh d).run hsingle inputs
  obtain ⟨losses, last, hsplit, hlost, hkept⟩ : Worker.Concludes history := by
    rcases hpasses.ended hdone with hasked | ⟨x, hx, hclosing⟩ | hsettled
    · rw [hunasked] at hasked
      cases hasked
    · rw [hopen x hx] at hclosing
      cases hclosing
    · exact hsettled
  have hpolls : polls = losses ++ [last] := hsplit
  have hmem : Happening.polled last ∈ history := by
    have hlast : last ∈ polls := by simp [hpolls]
    obtain ⟨x, hx, hxlast⟩ := List.mem_filterMap.mp hlast
    cases x with
    | polled result => rwa [Option.some.inj hxlast] at hx
    | opened | ended | called => cases hxlast
  have hlast := ok_or_transient_of_kept hkept (hopen _ hmem)
  have hnone : losses.filterMap Except.toOption = [] := by
    refine List.filterMap_eq_nil_iff.mpr fun result hresult => ?_
    cases result with
    | ok => cases hlost _ hresult
    | error => rfl
  have hmem_iff : ∀ result : Except SourceError Batch, loses result = false →
      (result ∈ polls ↔ result = last) := by
    intro result hnot
    have hnotLost : result ∉ losses := fun hresult => by
      rw [hlost result hresult] at hnot
      cases hnot
    rw [hpolls, List.mem_append, List.mem_singleton, or_iff_right hnotLost]
  refine ⟨⟨losses, last, hpolls, hlost, hlast, ?_⟩, ?_⟩
  · rw [w.delivered_eq, hsplit, List.filterMap_append, hnone]
    cases last <;> rfl
  · simp only [hmem_iff (.ok _) rfl, hmem_iff (.error (.transient _)) rfl]
    rcases hlast with ⟨batch, rfl⟩ | ⟨reason, rfl⟩
    · simp
    · simp

namespace SinglePass

/-- What a worker is told that reads its source once. -/
def once : ReceiverSettings := { Tailing.plainSettings with tailing := false }

/-- A source that is lost at the first poll and read at the second. -/
def regained : List Input :=
  [.tick, .opened (.ok ()), .polled (.error (.lost "gone")), .tick, .tick, .opened (.ok ()),
    .polled (.ok { lines := ["INFO - a"], atEnd := true })]

/-- A source whose first poll fails for now, and whose second one would bring a line. -/
def flaky : List Input :=
  [.tick, .opened (.ok ()), .polled (.error (.transient "flaky")), .tick,
    .polled (.ok { lines := ["INFO - a"] })]

end SinglePass

/-- A source that is lost is opened again and read. -/
theorem polls_of_single_pass_regained :
    let w : Worker := { decoder := Delivery.levelDecoder }
    (w.run SinglePass.once SinglePass.regained).phase = .done ∧
      (w.run SinglePass.once SinglePass.regained).pushed.map Event.raw = ["INFO - a"] ∧
      ∃ batch, .ok batch ∈
        (w.history SinglePass.once SinglePass.regained).filterMap Happening.polled? := by
  intro w
  have hpolls : (w.history SinglePass.once SinglePass.regained).filterMap Happening.polled? =
      [.error (.lost "gone"), .ok { lines := ["INFO - a"], atEnd := true }] := by
    decide +kernel
  obtain ⟨-, hread⟩ := polls_of_single_pass SinglePass.once rfl Delivery.levelDecoder SinglePass.regained
    (by decide +kernel) (by decide +kernel) (by decide +kernel)
  refine ⟨by decide +kernel, by decide +kernel, hread.mpr fun reason => ?_⟩
  rw [hpolls]
  simp

/-- **A poll that fails for now ends a single pass**, and nothing has been read. -/
theorem single_pass_unread :
    let w : Worker := { decoder := Delivery.levelDecoder }
    let r := w.run SinglePass.once SinglePass.flaky
    let history := w.history SinglePass.once SinglePass.flaky
    r.phase = .done ∧ r.signal.closed = false ∧ (∀ x ∈ history, x.isClosing = false) ∧
      (∀ batch, .ok batch ∉ history.filterMap Happening.polled?) ∧ r.pushed = [] := by
  intro w r history
  have hpolls : history.filterMap Happening.polled? = [.error (.transient "flaky")] := by
    decide +kernel
  refine ⟨by decide +kernel, by decide +kernel, by decide +kernel, fun batch => ?_, by decide +kernel⟩
  rw [hpolls]
  simp

end LogIntake
