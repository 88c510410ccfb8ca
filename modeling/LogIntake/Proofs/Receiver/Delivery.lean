import LogIntake.Proofs.Receiver.Tailing

/-!
# Lines that come in different batches

* `Turn`: what comes of an open source from one poll to the next; `Closing`: how it ends.
* `Delivery`: the turns of a source from its first opening to its end.
* `Delivery.Leads`: the inputs of a worker whose source delivers so, until the stream is closed or the
  owner asks the worker to stop.
* `Decoder.decodeBatches_eq`: batches that bring lines are decoded like all their lines in one go.
* **`pushed_of_delivery`**: whatever the delivery, the worker ends and has pushed the events of all lines.
-/

namespace LogIntake

/-! ## Deliveries -/

/-- Whether the source is lost, so that it is to be opened again. -/
def SourceError.isLoss : SourceError → Bool
  | .lost _ | .unreachable _ => true
  | .transient _ | .closed => false

/-- What happens while a source that was asked to open fails to do so a number of times. -/
def tries (failures : List SourceError) : List Input :=
  failures.flatMap fun e => [.tick, .opened (.error e), .tick]

/-- What comes of an open source from one poll to the next. -/
inductive Turn where
  /-- A poll brings lines. -/
  | lines (batch : List String) (nonempty : batch ≠ [])
  /-- A poll fails, and the source stays open. -/
  | hitch (reason : String)
  /-- The source is lost, fails to open a number of times and opens again. -/
  | outage (loss : SourceError) (isLoss : loss.isLoss = true) (failures : List SourceError)
      (notClosed : .closed ∉ failures)

/-- What the worker meets with in a turn. -/
def Turn.inputs : Turn → List Input
  | .lines batch _ => [.polled (.ok { lines := batch }), .tick]
  | .hitch reason => [.polled (.error (.transient reason)), .tick]
  | .outage loss _ failures _ =>
    [.polled (.error loss), .tick] ++ tries failures ++ [.tick, .opened (.ok ())]

/-- The batch of a turn, if it has one. -/
def Turn.batches : Turn → List Batch
  | .lines batch _ => [{ lines := batch }]
  | .hitch _ | .outage _ _ _ _ => []

/-- How an open source ends. -/
inductive Closing where
  /-- A poll finds the stream closed. -/
  | polled
  /-- The source is lost, fails to open a number of times and is then found closed. -/
  | reopened (loss : SourceError) (isLoss : loss.isLoss = true) (failures : List SourceError)
      (notClosed : .closed ∉ failures)

/-- What the worker meets with at the end of its source. -/
def Closing.inputs : Closing → List Input
  | .polled => [.polled (.error .closed)]
  | .reopened loss _ failures _ =>
    [.polled (.error loss), .tick] ++ tries failures ++ [.tick, .opened (.error .closed)]

/-- What comes of a source: it fails to open a number of times, opens, has its turns and ends. -/
structure Delivery where
  failures : List SourceError
  notClosed : .closed ∉ failures
  turns : List Turn
  closing : Closing

namespace Delivery

/-- The batches of a delivery. -/
def batches (p : Delivery) : List Batch := p.turns.flatMap Turn.batches

/-- The lines of a delivery. -/
def lines (p : Delivery) : List String := p.batches.flatMap Batch.lines

/-- What the worker meets with if nobody asks it to stop. -/
def inputs (p : Delivery) : List Input :=
  tries p.failures ++ [.tick, .opened (.ok ())] ++ p.turns.flatMap Turn.inputs ++ p.closing.inputs

end Delivery

/-- Whether a wait is over. -/
def Input.isTick : Input → Bool
  | .tick => true
  | .opened _ | .polled _ | .stop => false

/-- Whether a poll has succeeded. -/
def Input.isBatch : Input → Bool
  | .polled (.ok _) => true
  | .polled (.error _) | .opened _ | .tick | .stop => false

/-- The inputs of a worker whose source delivers so. The owner may ask the worker to stop once all
lines have been polled, at the earliest during the poll that brings the last ones. -/
inductive Delivery.Leads (p : Delivery) : List Input → Prop
  | closed : p.Leads p.inputs
  | stopped {front back : List Input} (split : front ++ back = p.inputs)
      (allPolled : ∀ input ∈ back.dropWhile (!·.isTick), input.isBatch = false) :
      p.Leads (front ++ .stop :: back)

/-! ## Decoding in one go -/

namespace Decoder

variable (s : Surroundings)

theorem decodeAll_append (d : Decoder) (front back : List String) :
    d.decodeAll s (front ++ back) =
      ((d.decodeAll s front).1 ++ ((d.decodeAll s front).2.decodeAll s back).1,
        ((d.decodeAll s front).2.decodeAll s back).2) := by
  induction front generalizing d with
  | nil => rfl
  | cons line front ih => simp only [List.cons_append, decodeAll, ih, List.append_assoc]

/-- Batches that bring lines, and are not the last ones, are decoded like all their lines in one go. -/
theorem decodeBatches_eq (d : Decoder) {batches : List Batch}
    (h : ∀ batch ∈ batches, batch.atEnd = false ∧ batch.lines ≠ []) :
    d.decodeBatches s batches = d.decodeAll s (batches.flatMap Batch.lines) := by
  induction batches generalizing d with
  | nil => rfl
  | cons batch batches ih =>
    rw [List.forall_mem_cons] at h
    have hopen : ¬ (batch.atEnd || batch.lines.isEmpty) = true := by simp [h.1.1, h.1.2]
    have hbatch : d.decodeBatch s batch = d.decodeAll s batch.lines := by
      rw [decodeBatch, if_neg hopen]
    rw [decodeBatches, hbatch, ih _ h.2, List.flatMap_cons, decodeAll_append]

end Decoder

/-- Every batch of a delivery brings lines and is not marked as the last one. -/
theorem Delivery.mem_batches {p : Delivery} {batch : Batch} (h : batch ∈ p.batches) :
    batch.atEnd = false ∧ batch.lines ≠ [] := by
  obtain ⟨turn, -, hbatch⟩ := List.mem_flatMap.mp h
  cases turn with
  | lines lines nonempty =>
    have heq : batch = { lines } := by simpa [Turn.batches] using hbatch
    rw [heq]
    exact ⟨rfl, nonempty⟩
  | hitch => simp [Turn.batches] at hbatch
  | outage => simp [Turn.batches] at hbatch

/-! ## Runs of a worker -/

namespace Worker

variable {settings : ReceiverSettings} {w : Worker}

/-- The batches that inputs bring to a worker. -/
def delivered (settings : ReceiverSettings) : Worker → List Input → List Batch
  | _, [] => []
  | w, input :: inputs => w.brought input ++ delivered settings (w.step settings input) inputs

theorem run_append (w : Worker) (front back : List Input) :
    w.run settings (front ++ back) = (w.run settings front).run settings back :=
  List.foldl_append

theorem delivered_append (w : Worker) (front back : List Input) :
    w.delivered settings (front ++ back) =
      w.delivered settings front ++ (w.run settings front).delivered settings back := by
  induction front generalizing w with
  | nil => rfl
  | cons input front ih =>
    rw [List.cons_append, delivered, delivered, ih, List.append_assoc]
    rfl

/-- **A worker reflects all batches that its inputs bring.** -/
theorem Reflects.run {d : Decoder} {batches : List Batch} (h : w.Reflects settings d batches)
    (inputs : List Input) : (w.run settings inputs).Reflects settings d
      (batches ++ w.delivered settings inputs) := by
  induction inputs generalizing w batches with
  | nil => simpa [Worker.run, delivered] using h
  | cons input inputs ih =>
    have := ih (h.step input)
    rwa [List.append_assoc] at this

/-- The worker is in a phase, and nobody has asked it to stop. -/
structure IsIn (w : Worker) (phase : Phase) : Prop where
  phase_eq : w.phase = phase
  notStopped : w.signal.closed = false

namespace IsIn

theorem tick_ready (h : w.IsIn .ready) : (w.step settings .tick).IsIn .opening := by
  have hstep : w.step settings .tick = { w with phase := .opening }.call .openSource := by
    simp [step, onTick, h.phase_eq, h.notStopped]
  rw [hstep]
  exact ⟨rfl, h.notStopped⟩

theorem tick_retrying (h : w.IsIn .retrying) : (w.step settings .tick).IsIn .ready := by
  have hstep : w.step settings .tick = { w with phase := .ready } := by
    simp [step, onTick, h.phase_eq, h.notStopped]
  rw [hstep]
  exact ⟨rfl, h.notStopped⟩

theorem tick_idle (h : w.IsIn .idle) : (w.step settings .tick).IsIn .polling := by
  have hstep : w.step settings .tick = { w with phase := .polling }.call .pollSource := by
    simp [step, onTick, h.phase_eq, h.notStopped]
  rw [hstep]
  exact ⟨rfl, h.notStopped⟩

theorem opened (h : w.IsIn .opening) : (w.step settings (.opened (.ok ()))).IsIn .polling := by
  rw [step, if_pos h.phase_eq]
  exact ⟨rfl, h.notStopped⟩

theorem failed (h : w.IsIn .opening) {e : SourceError} (he : e ≠ .closed) :
    (w.step settings (.opened (.error e))).IsIn .retrying := by
  rw [step, if_pos h.phase_eq]
  cases e with
  | closed => exact absurd rfl he
  | unreachable | lost | transient => exact ⟨rfl, h.notStopped⟩

theorem lost (h : w.IsIn .polling) {e : SourceError} (he : e.isLoss = true) :
    (w.step settings (.polled (.error e))).IsIn .retrying := by
  rw [step, if_pos h.phase_eq]
  cases e with
  | unreachable | lost => exact ⟨rfl, h.notStopped⟩
  | transient | closed => cases he

theorem polled (htail : settings.tailing = true) (h : w.IsIn .polling) (batch : Batch) :
    (w.step settings (.polled (.ok batch))).IsIn .idle := by
  rw [step, if_pos h.phase_eq, onPolled, afterPoll, if_pos htail, takeBatch_eq]
  exact ⟨rfl, h.notStopped⟩

theorem skipped (htail : settings.tailing = true) (h : w.IsIn .polling) (reason : String) :
    (w.step settings (.polled (.error (.transient reason)))).IsIn .idle := by
  rw [step, if_pos h.phase_eq, onPolled, afterPoll, if_pos htail]
  exact ⟨rfl, h.notStopped⟩

/-- A source that fails to open leaves the worker where it was. -/
theorem run_tries (settings : ReceiverSettings) (h : w.IsIn .ready) {failures : List SourceError}
    (hf : .closed ∉ failures) :
    (w.run settings (tries failures)).IsIn .ready ∧ w.delivered settings (tries failures) = [] := by
  induction failures generalizing w with
  | nil => exact ⟨h, rfl⟩
  | cons e failures ih =>
    rw [List.mem_cons, not_or] at hf
    have hnext : (w.run settings [.tick, .opened (.error e), .tick]).IsIn .ready :=
      (h.tick_ready.failed (Ne.symm hf.1)).tick_retrying
    obtain ⟨hrun, hdelivered⟩ := ih hnext hf.2
    rw [tries, List.flatMap_cons, ← tries, run_append, delivered_append, hdelivered]
    exact ⟨hrun, rfl⟩

/-- After its failures the source opens, and the worker polls it. -/
theorem run_opening (settings : ReceiverSettings) (h : w.IsIn .ready) {failures : List SourceError}
    (hf : .closed ∉ failures) :
    (w.run settings (tries failures ++ [.tick, .opened (.ok ())])).IsIn .polling ∧
      w.delivered settings (tries failures ++ [.tick, .opened (.ok ())]) = [] := by
  obtain ⟨hrun, hdelivered⟩ := h.run_tries settings hf
  rw [run_append, delivered_append, hdelivered]
  exact ⟨hrun.tick_ready.opened, rfl⟩

/-- **A turn brings its batch**, and the worker polls again. -/
theorem run_turn (htail : settings.tailing = true) (h : w.IsIn .polling) (turn : Turn) :
    (w.run settings turn.inputs).IsIn .polling ∧ w.delivered settings turn.inputs = turn.batches := by
  cases turn with
  | lines batch nonempty =>
    refine ⟨(h.polled htail { lines := batch }).tick_idle, ?_⟩
    simp [Turn.inputs, Turn.batches, delivered, brought, h.phase_eq]
  | hitch reason => exact ⟨(h.skipped htail reason).tick_idle, rfl⟩
  | outage loss isLoss failures notClosed =>
    have hready : (w.run settings [.polled (.error loss), .tick]).IsIn .ready :=
      (h.lost isLoss).tick_retrying
    obtain ⟨hrun, hdelivered⟩ := hready.run_opening settings notClosed
    rw [Turn.inputs, List.append_assoc, run_append, delivered_append, hdelivered]
    exact ⟨hrun, rfl⟩

/-- **The turns bring their batches.** -/
theorem run_turns (htail : settings.tailing = true) (h : w.IsIn .polling) (turns : List Turn) :
    (w.run settings (turns.flatMap Turn.inputs)).IsIn .polling ∧
      w.delivered settings (turns.flatMap Turn.inputs) = turns.flatMap Turn.batches := by
  induction turns generalizing w with
  | nil => exact ⟨h, rfl⟩
  | cons turn turns ih =>
    obtain ⟨hturn, hbatches⟩ := h.run_turn htail turn
    obtain ⟨hrun, hdelivered⟩ := ih hturn
    rw [List.flatMap_cons, run_append, delivered_append, hbatches, hdelivered, List.flatMap_cons]
    exact ⟨hrun, rfl⟩

/-- The worker ends with its source, which brings nothing more. -/
theorem run_closing (settings : ReceiverSettings) (h : w.IsIn .polling) (closing : Closing) :
    (w.run settings closing.inputs).phase = .done ∧ w.delivered settings closing.inputs = [] := by
  cases closing with
  | polled =>
    refine ⟨?_, rfl⟩
    change (w.step settings (.polled (.error .closed))).phase = .done
    rw [step, if_pos h.phase_eq]
    rfl
  | reopened loss isLoss failures notClosed =>
    have hready : (w.run settings [.polled (.error loss), .tick]).IsIn .ready :=
      (h.lost isLoss).tick_retrying
    obtain ⟨hrun, hdelivered⟩ := hready.run_tries settings notClosed
    rw [Closing.inputs, List.append_assoc, run_append, delivered_append, run_append,
      delivered_append, hdelivered]
    refine ⟨?_, rfl⟩
    change (Worker.step settings (Worker.step settings _ .tick) (.opened (.error .closed))).phase = .done
    rw [step, if_pos hrun.tick_ready.phase_eq]
    rfl

end IsIn

/-- **A delivery that nobody cuts short ends the worker** after all its batches. -/
theorem run_delivery (htail : settings.tailing = true) (d : Decoder) (p : Delivery) :
    (Worker.run settings { decoder := d } p.inputs).phase = .done ∧
      Worker.delivered settings { decoder := d } p.inputs = p.batches := by
  have hready : IsIn { decoder := d } .ready := ⟨rfl, rfl⟩
  obtain ⟨hopen, hnone⟩ := hready.run_opening settings p.notClosed
  obtain ⟨hturns, hbatches⟩ := hopen.run_turns htail p.turns
  obtain ⟨hdone, hnothing⟩ := hturns.run_closing settings p.closing
  rw [Delivery.inputs, run_append, delivered_append, run_append, delivered_append, hnone, hbatches,
    hnothing, List.append_nil]
  exact ⟨hdone, rfl⟩

/-! ## Stop requests -/

/-- The worker has been asked to stop. -/
def stopped (w : Worker) : Worker := { w with signal := w.signal.close }

theorem takeBatch_stopped (w : Worker) (batch : Batch) :
    w.stopped.takeBatch settings batch = (w.takeBatch settings batch).stopped := by
  simp only [takeBatch_eq, stopped, push]

theorem finish_stopped (w : Worker) : w.stopped.finish settings = (w.finish settings).stopped := by
  simp only [finish, stopped, push, call]

theorem afterPoll_stopped (w : Worker) :
    w.stopped.afterPoll settings = (w.afterPoll settings).stopped := by
  rw [afterPoll, afterPoll]
  split
  · rfl
  · exact w.finish_stopped

/-- A stop request makes no difference before a wait is over. -/
theorem step_stopped {input : Input} (h : input.isTick = false) :
    w.stopped.step settings input = (w.step settings input).stopped := by
  cases input with
  | tick => cases h
  | stop => rfl
  | opened result =>
    by_cases hphase : w.phase = .opening
    · have hphase' : w.stopped.phase = .opening := hphase
      rw [step, step, if_pos hphase, if_pos hphase']
      cases result with
      | ok _ => rfl
      | error e =>
        cases e with
        | closed => exact w.finish_stopped
        | unreachable | lost | transient => rfl
    · have hphase' : ¬ w.stopped.phase = .opening := hphase
      rw [step, step, if_neg hphase, if_neg hphase']
  | polled result =>
    by_cases hphase : w.phase = .polling
    · have hphase' : w.stopped.phase = .polling := hphase
      rw [step, step, if_pos hphase, if_pos hphase']
      cases result with
      | ok batch => rw [onPolled, onPolled, takeBatch_stopped, afterPoll_stopped]
      | error e =>
        cases e with
        | closed => exact w.finish_stopped
        | transient reason => exact w.afterPoll_stopped
        | unreachable | lost => rfl
    · have hphase' : ¬ w.stopped.phase = .polling := hphase
      rw [step, step, if_neg hphase, if_neg hphase']

/-- A worker that has ended does nothing more. -/
theorem step_done (h : w.phase = .done) (input : Input) : (w.step settings input).phase = .done := by
  cases input with
  | opened result => rw [step, if_neg (by rw [h]; decide)]; exact h
  | polled result => rw [step, if_neg (by rw [h]; decide)]; exact h
  | tick => rw [step, onTick, h]; exact h
  | stop => exact h

/-- After a stop request the worker goes on as it would without, or it has ended. -/
def Follows (w' w : Worker) : Prop := w' = w.stopped ∨ w'.phase = .done

/-- At the end of a wait the request is seen. -/
theorem stopped_tick (w : Worker) : (w.stopped.step settings .tick).Follows (w.step settings .tick) := by
  cases hphase : w.phase with
  | ready | retrying | idle =>
    right
    have hstep : w.stopped.step settings .tick = w.stopped.finish settings := by
      simp [step, onTick, stopped, hphase]
    rw [hstep]
    rfl
  | opening | polling | done =>
    left
    simp [step, onTick, stopped, hphase]

theorem Follows.step {w' : Worker} (h : w'.Follows w) (input : Input) :
    (w'.step settings input).Follows (w.step settings input) := by
  rcases h with rfl | hdone
  · cases htick : input.isTick with
    | false => exact .inl (step_stopped htick)
    | true =>
      cases input with
      | tick => exact w.stopped_tick
      | opened | polled | stop => cases htick
  · exact .inr (step_done hdone input)

/-- **A worker that is asked to stop ends no later than without the request.** -/
theorem Follows.done {w' : Worker} (h : w'.Follows w) (inputs : List Input)
    (hdone : (w.run settings inputs).phase = .done) : (w'.run settings inputs).phase = .done := by
  induction inputs generalizing w w' with
  | nil =>
    rcases h with rfl | h
    · exact hdone
    · exact h
  | cons input inputs ih => exact ih (h.step input) hdone

theorem delivered_of_noBatch {inputs : List Input} (h : ∀ input ∈ inputs, input.isBatch = false)
    (w : Worker) : w.delivered settings inputs = [] := by
  induction inputs generalizing w with
  | nil => rfl
  | cons input inputs ih =>
    rw [List.forall_mem_cons] at h
    have hnone : w.brought input = [] := by
      cases input with
      | polled result =>
        cases result with
        | ok batch => exact absurd h.1 (by simp [Input.isBatch])
        | error e => rfl
      | opened | tick | stop => rfl
    rw [delivered, hnone, ih h.2]
    rfl

/-- A stop request keeps no batch away that is polled before a wait is over. -/
theorem delivered_stopped {inputs : List Input}
    (h : ∀ input ∈ inputs.dropWhile (!·.isTick), input.isBatch = false) (w : Worker) :
    w.stopped.delivered settings inputs = w.delivered settings inputs := by
  induction inputs generalizing w with
  | nil => rfl
  | cons input inputs ih =>
    cases htick : input.isTick with
    | true =>
      rw [List.dropWhile_cons_of_neg (by simp [htick])] at h
      rw [delivered_of_noBatch h, delivered_of_noBatch h]
    | false =>
      rw [List.dropWhile_cons_of_pos (by simp [htick])] at h
      have hbrought : w.stopped.brought input = w.brought input := by
        cases input with
        | polled result => cases result <;> rfl
        | opened | tick | stop => rfl
      rw [delivered, delivered, step_stopped htick, ih h, hbrought]

/-- **However a delivery ends, it ends the worker after all its batches.** -/
theorem run_leads (htail : settings.tailing = true) (d : Decoder) {p : Delivery}
    {inputs : List Input} (h : p.Leads inputs) :
    (Worker.run settings { decoder := d } inputs).phase = .done ∧
      Worker.delivered settings { decoder := d } inputs = p.batches := by
  obtain ⟨hdone, hbatches⟩ := run_delivery htail d p
  cases h with
  | closed => exact ⟨hdone, hbatches⟩
  | stopped split allPolled =>
    rw [← split, run_append] at hdone
    rw [← split, delivered_append] at hbatches
    rw [run_append, delivered_append]
    refine ⟨Follows.done (.inl rfl) _ hdone, ?_⟩
    exact (congrArg (_ ++ ·) (delivered_stopped allPolled _)).trans hbatches

end Worker

/-- **What a receiver pushes does not depend on how its lines are delivered.** Two deliveries of the
same lines both end the worker, and it has pushed the same events: those of all lines decoded in one go,
the pending record included, which pass the filter. -/
theorem pushed_of_delivery (settings : ReceiverSettings) (htail : settings.tailing = true)
    (d : Decoder) {p q : Delivery} {inputs inputs' : List Input} (hp : p.Leads inputs)
    (hq : q.Leads inputs') (hlines : p.lines = q.lines) :
    let w := Worker.run settings { decoder := d } inputs
    let w' := Worker.run settings { decoder := d } inputs'
    let decoded := d.decodeAll settings.surroundings p.lines
    w.phase = .done ∧ w'.phase = .done ∧ w.pushed = w'.pushed ∧
      w.pushed = TextFilter.select settings.filter settings.surroundings.almanac.zone
        (decoded.1 ++ (decoded.2.flush settings.surroundings).1) := by
  have hpushed : ∀ {p : Delivery} {inputs : List Input}, p.Leads inputs →
      (Worker.run settings { decoder := d } inputs).phase = .done ∧
        (Worker.run settings { decoder := d } inputs).pushed =
          TextFilter.select settings.filter settings.surroundings.almanac.zone
            ((d.decodeAll settings.surroundings p.lines).1 ++
              ((d.decodeAll settings.surroundings p.lines).2.flush settings.surroundings).1) := by
    intro p inputs h
    obtain ⟨hdone, hbatches⟩ := Worker.run_leads htail d h
    have hreflects := (Worker.Reflects.fresh settings d).run inputs
    rw [List.nil_append, hbatches] at hreflects
    refine ⟨hdone, ?_⟩
    rw [hreflects.ended hdone, Decoder.decodeBatches_eq _ _ fun _ => Delivery.mem_batches]
    rfl
  obtain ⟨hdone, heq⟩ := hpushed hp
  obtain ⟨hdone', heq'⟩ := hpushed hq
  rw [← hlines] at heq'
  exact ⟨hdone, hdone', heq.trans heq'.symm, heq⟩

namespace Delivery

/-- Two records at once. -/
def atOnce : Delivery where
  failures := []
  notClosed := by decide
  turns := [.lines ["INFO - one", "two", "INFO - three"] (by decide)]
  closing := .polled

/-- The same lines, with an outage of the source inside the first record. -/
def acrossOutage : Delivery where
  failures := [.unreachable "not yet"]
  notClosed := by decide
  turns := [.lines ["INFO - one"] (by decide), .hitch "slow",
    .outage (.lost "gone") rfl [.transient "busy"] (by decide),
    .lines ["two", "INFO - three"] (by decide)]
  closing := .polled

/-- The inputs across the outage, with a stop request during the poll that brings the last lines. -/
def acrossOutageStopped : List Input :=
  acrossOutage.inputs.take 16 ++ .stop :: acrossOutage.inputs.drop 16

/-- A decoder for lines such as `INFO - one`. -/
def levelDecoder : Decoder where
  source := "app"
  assembler := { template := Tailing.levelTemplate, keepUnmatched := false }
  timestamp := .relative {}

/-- The record that the outage divides is pushed as one event. -/
theorem pushed_acrossOutage :
    let w := Worker.run Tailing.plainSettings { decoder := levelDecoder } acrossOutageStopped
    let w' := Worker.run Tailing.plainSettings { decoder := levelDecoder } atOnce.inputs
    w.phase = .done ∧ w.pushed = w'.pushed ∧
      w.pushed.map Event.raw = ["INFO - one\ntwo", "INFO - three"] := by
  have hstopped : acrossOutage.Leads acrossOutageStopped :=
    .stopped (List.take_append_drop 16 _) (by decide)
  obtain ⟨hdone, -, heq, -⟩ := pushed_of_delivery Tailing.plainSettings rfl levelDecoder hstopped
    (.closed : atOnce.Leads atOnce.inputs) (by decide)
  exact ⟨hdone, heq, by decide +kernel⟩

end Delivery

end LogIntake
