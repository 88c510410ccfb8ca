import LogIntake.Receiver.Worker

/-!
# What a worker pushes

* `Decoder.decodeBatch`, `Decoder.decodeBatches`: the events of batches, the pending record included
  where a batch brings no line or is the last one.
* `Worker.Decoded`: a worker has pushed the events of some batches; `Worker.Reflects`: and at its end
  the pending one too.
* **`Worker.Reflects.step`**: kept by every input; `Worker.Reflects.run`.
-/

namespace LogIntake

namespace Decoder

variable (s : Surroundings)

/-- The events of a batch. The pending record is handed out if no line follows for now. -/
def decodeBatch (d : Decoder) (batch : Batch) : List Event × Decoder :=
  let decoded := d.decodeAll s batch.lines
  if batch.atEnd || batch.lines.isEmpty then
    (decoded.1 ++ (decoded.2.flush s).1, (decoded.2.flush s).2)
  else decoded

/-- The events of batches one after the other. -/
def decodeBatches : Decoder → List Batch → List Event × Decoder
  | d, [] => ([], d)
  | d, batch :: rest =>
    ((d.decodeBatch s batch).1 ++ (decodeBatches (d.decodeBatch s batch).2 rest).1,
      (decodeBatches (d.decodeBatch s batch).2 rest).2)

theorem decodeBatches_append (d : Decoder) (front back : List Batch) :
    d.decodeBatches s (front ++ back) =
      ((d.decodeBatches s front).1 ++ ((d.decodeBatches s front).2.decodeBatches s back).1,
        ((d.decodeBatches s front).2.decodeBatches s back).2) := by
  induction front generalizing d with
  | nil => rfl
  | cons batch front ih => simp only [List.cons_append, decodeBatches, ih, List.append_assoc]

theorem decodeBatches_single (d : Decoder) (batch : Batch) :
    d.decodeBatches s [batch] = d.decodeBatch s batch := by
  simp only [decodeBatches, List.append_nil]

end Decoder

namespace Worker

variable {settings : ReceiverSettings} {d : Decoder} {w : Worker} {batches : List Batch}

/-- The events that pass the filter of a worker. -/
def selected (settings : ReceiverSettings) (events : List Event) : List Event :=
  TextFilter.select settings.filter settings.surroundings.almanac.zone events

theorem selected_of_none (h : settings.filter = none) (events : List Event) :
    selected settings events = events := by
  rw [selected, h]
  rfl

theorem selected_nil : selected settings [] = [] := by
  unfold selected TextFilter.select
  cases settings.filter <;> rfl

theorem selected_append (front back : List Event) :
    selected settings (front ++ back) = selected settings front ++ selected settings back := by
  unfold selected TextFilter.select
  cases settings.filter with
  | none => rfl
  | some filter => exact List.filter_append _ _

/-- The worker has pushed the events of the batches, and may have a record pending. -/
structure Decoded (settings : ReceiverSettings) (d : Decoder) (w : Worker)
    (batches : List Batch) : Prop where
  pushed : w.pushed = selected settings (d.decodeBatches settings.surroundings batches).1
  decoder : w.decoder = (d.decodeBatches settings.surroundings batches).2

/-- **The worker has pushed the events of the batches**, and at its end that of the pending record. -/
structure Reflects (settings : ReceiverSettings) (d : Decoder) (w : Worker)
    (batches : List Batch) : Prop where
  running : w.phase ≠ .done → w.Decoded settings d batches
  ended : w.phase = .done → w.pushed =
    selected settings ((d.decodeBatches settings.surroundings batches).1 ++
      ((d.decodeBatches settings.surroundings batches).2.flush settings.surroundings).1)

/-- The batches that an input brings to a worker. -/
def brought (w : Worker) : Input → List Batch
  | .polled (.ok batch) => if w.phase = .polling then [batch] else []
  | _ => []

theorem takeBatch_eq (w : Worker) (batch : Batch) : w.takeBatch settings batch =
    { w with decoder := (w.decoder.decodeBatch settings.surroundings batch).2 }.push settings
      (w.decoder.decodeBatch settings.surroundings batch).1 := by
  rw [takeBatch, Decoder.decodeBatch]
  by_cases h : (batch.atEnd || batch.lines.isEmpty) = true
  · simp only [if_pos h]
  · simp only [if_neg h]

/-- A batch is decoded. -/
theorem Decoded.takeBatch (h : w.Decoded settings d batches) (batch : Batch) :
    (w.takeBatch settings batch).Decoded settings d (batches ++ [batch]) := by
  rw [takeBatch_eq]
  refine ⟨?_, ?_⟩
  · rw [Decoder.decodeBatches_append, Decoder.decodeBatches_single, selected_append, ← h.decoder,
      ← h.pushed]
    rfl
  · rw [Decoder.decodeBatches_append, Decoder.decodeBatches_single, ← h.decoder]
    rfl

/-- A worker that ends pushes the pending record. -/
theorem Decoded.finish (h : w.Decoded settings d batches) :
    (w.finish settings).Reflects settings d batches := by
  refine ⟨fun hne => absurd rfl hne, fun _ => ?_⟩
  rw [selected_append, ← h.decoder, ← h.pushed]
  rfl

/-- What keeps the events and the decoder keeps the invariant, unless the worker ends. -/
theorem Decoded.reflects {w' : Worker} (h : w.Decoded settings d batches)
    (hpushed : w'.pushed = w.pushed) (hdecoder : w'.decoder = w.decoder) (hne : w'.phase ≠ .done) :
    w'.Reflects settings d batches :=
  ⟨fun _ => ⟨hpushed.trans h.pushed, hdecoder.trans h.decoder⟩, fun hdone => absurd hdone hne⟩

theorem Decoded.afterPoll (h : w.Decoded settings d batches) :
    (w.afterPoll settings).Reflects settings d batches := by
  rw [Worker.afterPoll]
  split
  · exact h.reflects rfl rfl (by simp)
  · exact h.finish

theorem Decoded.onOpened (h : w.Decoded settings d batches) (result : Except SourceError Unit) :
    (w.onOpened settings result).Reflects settings d batches := by
  cases result with
  | ok _ => exact h.reflects rfl rfl (by simp [Worker.onOpened, Worker.call])
  | error e =>
    cases e with
    | closed => exact h.finish
    | unreachable | lost | transient => exact h.reflects rfl rfl (by simp [Worker.onOpened])

theorem Decoded.onPolled (h : w.Decoded settings d batches) (hphase : w.phase = .polling)
    (result : Except SourceError Batch) : (w.onPolled settings result).Reflects settings d
      (batches ++ w.brought (.polled result)) := by
  cases result with
  | ok batch =>
    rw [brought, if_pos hphase]
    exact (h.takeBatch batch).afterPoll
  | error e =>
    rw [show w.brought (.polled (.error e)) = [] from rfl, List.append_nil]
    cases e with
    | closed => exact h.finish
    | transient reason => exact h.afterPoll
    | unreachable | lost =>
      exact h.reflects rfl rfl (by simp [Worker.onPolled, Worker.call])

theorem Reflects.onTick (h : w.Reflects settings d batches) :
    (w.onTick settings).Reflects settings d batches := by
  rw [Worker.onTick]
  split
  case h_1 hp | h_2 hp | h_3 hp =>
    have hd := h.running (by rw [hp]; decide)
    split
    · exact hd.finish
    · exact hd.reflects rfl rfl (by simp [Worker.call])
  all_goals exact h

/-- **Every input keeps the invariant.** -/
theorem Reflects.step (h : w.Reflects settings d batches) (input : Input) :
    (w.step settings input).Reflects settings d (batches ++ w.brought input) := by
  cases input with
  | opened result =>
    rw [show w.brought (.opened result) = [] from rfl, List.append_nil, Worker.step]
    split
    · next hp => exact (h.running (by rw [hp]; decide)).onOpened result
    · exact h
  | polled result =>
    rw [Worker.step]
    split
    · next hp => exact (h.running (by rw [hp]; decide)).onPolled hp result
    · next hp =>
      have hnone : w.brought (.polled result) = [] := by
        cases result with
        | ok batch => exact if_neg hp
        | error e => rfl
      rw [hnone, List.append_nil]
      exact h
  | tick =>
    rw [show w.brought .tick = [] from rfl, List.append_nil]
    exact h.onTick
  | stop =>
    rw [show w.brought .stop = [] from rfl, List.append_nil]
    exact ⟨fun hne => ⟨(h.running hne).pushed, (h.running hne).decoder⟩, h.ended⟩

/-- A worker that has not begun has pushed nothing. -/
theorem Reflects.fresh (settings : ReceiverSettings) (d : Decoder) :
    Reflects settings d { decoder := d } [] :=
  ⟨fun _ => ⟨selected_nil.symm, rfl⟩, fun hdone => absurd hdone (by simp)⟩

end Worker

end LogIntake
