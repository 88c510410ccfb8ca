import LogIntake.Proofs.Receiver.Protocol

/-!
# How a worker ends

* `DecoderCall`, `Decoder.perform`: what a decoder is asked for; `Batch.calls`: and what of it is for a batch.
* `Decoder.perform_batches`: batches are decoded line by line.
* `Worker.underway`: the call that a worker waits for; `Phase.distance`, `Worker.takes`: how many answers and
  waits a worker that has been asked to stop is away from its end, and how many it takes.
* `Worker.Nears`: what becomes of such a worker; **`Nears.of_step`**: in a step, and `Nears.of_run`: in a run.
* `Worker.ClosesLast`: all events of a worker that has ended were pushed when it closed its source.
* **`winds_up`**: a worker that is asked to stop starts at most one call of each kind and ends, and a worker
  that ends has pushed all events, the pending one too, before it closes its source.
-/

namespace LogIntake

/-! ## What a decoder is asked for -/

/-- What a decoder can be asked for. -/
inductive DecoderCall where
  | line (text : String)
  | flush

/-- The line that a decoder is given. -/
def DecoderCall.line? : DecoderCall → Option String
  | .line text => some text
  | .flush => none

/-- What a decoder is asked for when a batch comes: its lines, and the pending record if no line follows for
now. -/
def Batch.calls (batch : Batch) : List DecoderCall :=
  batch.lines.map .line ++ if batch.atEnd || batch.lines.isEmpty then [.flush] else []

/-- The decoder is given every line of the batches once and in order. -/
theorem lines_calls (batches : List Batch) :
    (batches.flatMap Batch.calls).filterMap DecoderCall.line? = batches.flatMap Batch.lines := by
  rw [List.filterMap_flatMap]
  congr 1
  funext batch
  have hlines : (batch.lines.map DecoderCall.line).filterMap DecoderCall.line? = batch.lines := by
    rw [List.filterMap_map]
    exact List.filterMap_some
  rw [Batch.calls, List.filterMap_append, hlines]
  split <;> simp [DecoderCall.line?]

namespace Decoder

variable (s : Surroundings)

/-- What a decoder hands out when it is asked. -/
def answer (d : Decoder) : DecoderCall → List Event × Decoder
  | .line text => d.decode s text
  | .flush => d.flush s

/-- What a decoder hands out when it is asked again and again. -/
def perform : Decoder → List DecoderCall → List Event × Decoder
  | d, [] => ([], d)
  | d, call :: rest =>
    ((d.answer s call).1 ++ (perform (d.answer s call).2 rest).1, (perform (d.answer s call).2 rest).2)

theorem perform_append (d : Decoder) (front back : List DecoderCall) :
    d.perform s (front ++ back) =
      ((d.perform s front).1 ++ ((d.perform s front).2.perform s back).1,
        ((d.perform s front).2.perform s back).2) := by
  induction front generalizing d with
  | nil => rfl
  | cons call front ih => simp only [List.cons_append, perform, ih, List.append_assoc]

theorem perform_lines (d : Decoder) (lines : List String) :
    d.perform s (lines.map .line) = d.decodeAll s lines := by
  induction lines generalizing d with
  | nil => rfl
  | cons line lines ih =>
    rw [List.map_cons, perform, ih]
    rfl

theorem perform_flush (d : Decoder) : d.perform s [.flush] = d.flush s := by
  rw [perform, perform, List.append_nil]
  rfl

theorem perform_calls (d : Decoder) (batch : Batch) :
    d.perform s batch.calls = d.decodeBatch s batch := by
  rw [Batch.calls, perform_append, perform_lines, decodeBatch]
  split
  · rw [perform_flush]
  · rw [perform, List.append_nil]

/-- **Batches are decoded line by line.** -/
theorem perform_batches (d : Decoder) (batches : List Batch) :
    d.perform s (batches.flatMap Batch.calls) = d.decodeBatches s batches := by
  induction batches generalizing d with
  | nil => rfl
  | cons batch batches ih =>
    rw [List.flatMap_cons, perform_append, perform_calls, ih]
    rfl

end Decoder

/-! ## After a stop request -/

namespace Phase

/-- What a worker waits for. -/
def awaits : Phase → Input → Bool
  | .opening, .opened _ | .polling, .polled _ => true
  | .ready, .tick | .retrying, .tick | .idle, .tick => true
  | _, _ => false

/-- How many answers and waits a worker that has been asked to stop is away from its end. -/
def distance : Phase → Nat
  | .opening => 3
  | .polling => 2
  | .ready | .retrying | .idle => 1
  | .done => 0

/-- How many polls a worker that has been asked to stop still begins: one, if its source opens. -/
def pollsLeft : Phase → Nat
  | .opening => 1
  | .ready | .polling | .retrying | .idle | .done => 0

end Phase

namespace Worker

variable {settings : ReceiverSettings} {w w' : Worker}

/-- The call that a worker waits for. It has looked for a stop request before it decided on the call, so a
request that comes now may come before the call begins. -/
def underway (w : Worker) : List SourceCall :=
  match w.phase with
  | .opening => [.openSource]
  | .polling => [.pollSource]
  | .ready | .retrying | .idle | .done => []

/-- How many of the inputs are what a worker waits for. -/
def takes (settings : ReceiverSettings) : Worker → List Input → Nat
  | _, [] => 0
  | w, input :: inputs => (w.phase.awaits input).toNat + takes settings (w.step settings input) inputs

/-- What becomes of a worker that has been asked to stop while it takes a number of inputs: it does not open
its source again, polls it once at most, and comes nearer to its end with each of them. -/
structure Nears (w w' : Worker) (taken : Nat) : Prop where
  stops : w'.signal.closed = true
  calls : ∃ later, w'.trace = w.trace ++ later ∧ .openSource ∉ later.map Observation.call ∧
    (later.map Observation.call).count .pollSource + w'.phase.pollsLeft ≤ w.phase.pollsLeft
  nearer : taken + w'.phase.distance ≤ w.phase.distance

namespace Nears

theorem refl (h : w.signal.closed = true) : w.Nears w 0 :=
  ⟨h, ⟨[], (List.append_nil _).symm, List.not_mem_nil, (Nat.zero_add _).le⟩, (Nat.zero_add _).le⟩

theorem trans {w'' : Worker} {m n : Nat} (h : w.Nears w' m) (h' : w'.Nears w'' n) :
    w.Nears w'' (m + n) := by
  obtain ⟨early, hearly, hopen, hpolls⟩ := h.calls
  obtain ⟨late, hlate, hopen', hpolls'⟩ := h'.calls
  refine ⟨h'.stops, ⟨early ++ late, ?_, ?_, ?_⟩, ?_⟩
  · rw [hlate, hearly, List.append_assoc]
  · rw [List.map_append, List.mem_append, not_or]
    exact ⟨hopen, hopen'⟩
  · rw [List.map_append, List.count_append]
    omega
  · have hfirst := h.nearer
    have hthen := h'.nearer
    omega

/-- The worker ends. -/
theorem of_finish (h : w.signal.closed = true) (htrace : w'.trace = w.trace)
    (hstop : w'.signal.closed = w.signal.closed) (hdistance : 1 ≤ w.phase.distance) :
    w.Nears (w'.finish settings) 1 := by
  refine ⟨hstop.trans h, ⟨_, by rw [finish_trace, htrace], ?_, ?_⟩, hdistance⟩
  · simp [lastCall]
  · simp [lastCall, finish, Phase.pollsLeft]

/-- The worker goes on to wait, or to poll a source that has opened. -/
theorem of_calls (h : w.signal.closed = true) (hstop : w'.signal.closed = w.signal.closed)
    (later : List Observation) (htrace : w'.trace = w.trace ++ later)
    (hopen : .openSource ∉ later.map Observation.call)
    (hpolls : (later.map Observation.call).count .pollSource + w'.phase.pollsLeft ≤ w.phase.pollsLeft)
    (hdistance : w'.phase.distance < w.phase.distance) : w.Nears w' 1 :=
  ⟨hstop.trans h, ⟨later, htrace, hopen, hpolls⟩, by omega⟩

/-- A poll that did not lose the source is followed by a wait or by the end of a single pass. -/
theorem of_afterPoll (h : w.signal.closed = true) (hphase : w.phase = .polling)
    (htrace : w'.trace = w.trace) (hstop : w'.signal.closed = w.signal.closed) :
    w.Nears (w'.afterPoll settings) 1 := by
  rw [afterPoll]
  split
  · exact of_calls h hstop [] (by rw [List.append_nil]; exact htrace) List.not_mem_nil
      (by simp [Phase.pollsLeft]) (by simp [Phase.distance, hphase])
  · exact of_finish h htrace hstop (by simp [Phase.distance, hphase])

theorem of_opened (h : w.signal.closed = true) (hphase : w.phase = .opening)
    (result : Except SourceError Unit) : w.Nears (w.onOpened settings result) 1 := by
  cases result with
  | ok _ =>
    exact of_calls h rfl [⟨.pollSource, true, true, w.pushed.length⟩] rfl (by simp)
      (by simp [onOpened, call, Phase.pollsLeft, hphase])
      (by simp [onOpened, call, Phase.distance, hphase])
  | error e =>
    cases e with
    | closed => exact of_finish h rfl rfl (by simp [Phase.distance, hphase])
    | unreachable | lost | transient =>
      exact of_calls h rfl [] (List.append_nil _).symm List.not_mem_nil
        (by simp [onOpened, Phase.pollsLeft]) (by simp [onOpened, Phase.distance, hphase])

theorem of_polled (h : w.signal.closed = true) (hphase : w.phase = .polling)
    (result : Except SourceError Batch) : w.Nears (w.onPolled settings result) 1 := by
  cases result with
  | ok batch =>
    refine of_afterPoll h hphase ?_ ?_ <;> rw [takeBatch_eq] <;> rfl
  | error e =>
    cases e with
    | closed => exact of_finish h rfl rfl (by simp [Phase.distance, hphase])
    | transient => exact of_afterPoll h hphase rfl rfl
    | unreachable | lost =>
      exact of_calls h rfl [⟨.closeSource, false, w.hasOpened, w.pushed.length⟩] rfl (by simp)
        (by simp [onPolled, call, Phase.pollsLeft]) (by simp [onPolled, call, Phase.distance, hphase])

/-- **What an input makes of a worker that has been asked to stop.** -/
theorem of_step (h : w.signal.closed = true) (input : Input) :
    w.Nears (w.step settings input) (w.phase.awaits input).toNat := by
  cases input with
  | opened result =>
    rw [step]
    split
    · next hphase => simpa [Phase.awaits, hphase] using of_opened h hphase result
    · next hphase =>
      have hnot : w.phase.awaits (.opened result) = false := by
        cases hp : w.phase <;> simp [Phase.awaits, hp] at hphase ⊢
      rw [hnot]
      exact refl h
  | polled result =>
    rw [step]
    split
    · next hphase => simpa [Phase.awaits, hphase] using of_polled h hphase result
    · next hphase =>
      have hnot : w.phase.awaits (.polled result) = false := by
        cases hp : w.phase <;> simp [Phase.awaits, hp] at hphase ⊢
      rw [hnot]
      exact refl h
  | tick =>
    rw [step, onTick]
    cases hphase : w.phase with
    | ready | retrying | idle =>
      simp only [StopSignal.wait_eq, h, if_true, Phase.awaits, Bool.toNat_true]
      exact of_finish h rfl rfl (by simp [Phase.distance, hphase])
    | opening | polling | done => exact refl h
  | stop =>
    have hnot : w.phase.awaits .stop = false := by cases w.phase <;> rfl
    have hsame : w.step settings .stop = w := by
      obtain ⟨decoder, phase, ⟨closed⟩, connected, hasOpened, pushed, trace⟩ := w
      cases h
      rfl
    rw [hnot, hsame]
    exact refl h

/-- **What inputs make of a worker that has been asked to stop.** -/
theorem of_run (h : w.signal.closed = true) (inputs : List Input) :
    w.Nears (w.run settings inputs) (w.takes settings inputs) := by
  induction inputs generalizing w with
  | nil => exact refl h
  | cons input inputs ih =>
    have hstep : w.Nears (w.step settings input) (w.phase.awaits input).toNat := of_step h input
    exact hstep.trans (ih hstep.stops)

/-- At most one call of each kind begins, the one that the worker waited for included. -/
theorem calls_le_one {taken : Nat} (h : w.Nears w' taken) : ∃ later, w'.trace = w.trace ++ later ∧
    (w.underway ++ later.map Observation.call).count .openSource ≤ 1 ∧
    (w.underway ++ later.map Observation.call).count .pollSource ≤ 1 := by
  obtain ⟨later, htrace, hopen, hpolls⟩ := h.calls
  refine ⟨later, htrace, ?_, ?_⟩
  · rw [List.count_append, List.count_eq_zero.mpr hopen, underway]
    cases w.phase <;> decide
  · have hunderway : w.underway.count .pollSource + w.phase.pollsLeft ≤ 1 := by
      rw [underway]
      cases w.phase <;> decide
    rw [List.count_append]
    omega

/-- Three answers and waits bring the worker to its end. -/
theorem ended_or {taken : Nat} (h : w.Nears w' taken) : taken < 3 ∨ w'.phase = .done := by
  have hfar : w.phase.distance ≤ 3 := by cases w.phase <;> decide
  have hnearer := h.nearer
  by_cases hdone : w'.phase = .done
  · exact .inr hdone
  · have hnear : 1 ≤ w'.phase.distance := by
      cases hphase : w'.phase <;> first | decide | exact absurd hphase hdone
    exact .inl (by omega)

end Nears

/-! ## The last calls -/

/-- After a poll that did not lose the source a worker ends only by finishing. -/
theorem exists_finish_afterPoll (hdone : (w.afterPoll settings).phase = .done) :
    ∃ w', w.afterPoll settings = Worker.finish settings w' := by
  rw [afterPoll] at hdone ⊢
  split at hdone
  · cases hdone
  · next hsingle => exact ⟨w, if_neg hsingle⟩

/-- **A worker ends only by finishing.** -/
theorem exists_finish {input : Input} (hrunning : w.phase ≠ .done)
    (hdone : (w.step settings input).phase = .done) :
    ∃ w', w.step settings input = Worker.finish settings w' := by
  cases input with
  | opened result =>
    by_cases hphase : w.phase = .opening
    · rw [step, if_pos hphase] at hdone ⊢
      cases result with
      | ok _ => cases hdone
      | error e =>
        cases e with
        | closed => exact ⟨w, rfl⟩
        | unreachable | lost | transient => cases hdone
    · rw [step, if_neg hphase] at hdone
      exact absurd hdone hrunning
  | polled result =>
    by_cases hphase : w.phase = .polling
    · rw [step, if_pos hphase] at hdone ⊢
      cases result with
      | ok batch => exact exists_finish_afterPoll hdone
      | error e =>
        cases e with
        | closed => exact ⟨w, rfl⟩
        | transient reason => exact exists_finish_afterPoll hdone
        | unreachable | lost => cases hdone
    · rw [step, if_neg hphase] at hdone
      exact absurd hdone hrunning
  | tick =>
    rw [step, onTick] at hdone ⊢
    cases hphase : w.phase with
    | ready | retrying | idle =>
      rw [hphase] at hdone
      dsimp only at hdone ⊢
      split at hdone
      · next hstop => exact ⟨w, if_pos hstop⟩
      · cases hdone
    | opening | polling =>
      rw [hphase] at hdone
      exact absurd hdone hrunning
    | done => exact absurd hphase hrunning
  | stop => exact absurd hdone hrunning

/-- The last call of a worker on its source closed it, when all its events had been pushed. Then it told its
owner. -/
def ClosesLast (w : Worker) : Prop :=
  ∃ earlier closing told, w.trace = earlier ++ [closing, told] ∧ closing.call = .closeSource ∧
    told.call = .exit ∧ closing.pushed = w.pushed.length

theorem closesLast_finish (w : Worker) : (w.finish settings).ClosesLast :=
  ⟨w.trace, _, _, w.finish_trace, rfl, rfl, rfl⟩

/-- **A worker that ends has closed its source last**, and nothing comes after. -/
theorem ClosesLast.step (h : w.phase = .done → w.ClosesLast) (input : Input)
    (hdone : (w.step settings input).phase = .done) : (w.step settings input).ClosesLast := by
  by_cases hphase : w.phase = .done
  · have hsame : (w.step settings input).trace = w.trace ∧
        (w.step settings input).pushed = w.pushed := by
      cases input <;> simp [Worker.step, onTick, hphase]
    obtain ⟨earlier, closing, told, htrace, hcalls⟩ := h hphase
    rw [ClosesLast, hsame.1, hsame.2]
    exact ⟨earlier, closing, told, htrace, hcalls⟩
  · obtain ⟨w', hfinish⟩ := exists_finish hphase hdone
    rw [hfinish]
    exact closesLast_finish w'

theorem ClosesLast.run (h : w.phase = .done → w.ClosesLast) (inputs : List Input)
    (hdone : (w.run settings inputs).phase = .done) : (w.run settings inputs).ClosesLast := by
  induction inputs generalizing w with
  | nil => exact h hdone
  | cons input inputs ih => exact ih (fun hstep => ClosesLast.step h input hstep) hdone

end Worker

/-- **How a worker ends.** Once its owner has asked it to stop, at any moment, it starts at most one more call
to open its source and at most one more poll, the call that it waits for at that moment included, and it has
ended after at most three answers and waits. Whenever a worker ends, its decoder has been given every line of
every successful poll, in order, and has been flushed after the last of them, and the resulting events that
pass the filter have been pushed before the source is closed for the last time. -/
theorem winds_up (settings : ReceiverSettings) (d : Decoder) (inputs : List Input) :
    let r := Worker.run settings { decoder := d } inputs
    (∀ before after, inputs = before ++ .stop :: after →
      let w := Worker.run settings { decoder := d } before
      (∃ later, r.trace = w.trace ++ later ∧
        (w.underway ++ later.map Observation.call).count .openSource ≤ 1 ∧
        (w.underway ++ later.map Observation.call).count .pollSource ≤ 1) ∧
      (w.stopped.takes settings after < 3 ∨ r.phase = .done)) ∧
    (r.phase = .done →
      let batches := Worker.delivered settings { decoder := d } inputs
      let asked := batches.flatMap Batch.calls ++ [.flush]
      asked.filterMap DecoderCall.line? = batches.flatMap Batch.lines ∧
      r.pushed = Worker.selected settings (d.perform settings.surroundings asked).1 ∧
      r.ClosesLast) := by
  intro r
  refine ⟨fun before after hinputs => ?_, fun hdone => ?_⟩
  · intro w
    have hr : r = w.stopped.run settings after := by
      change Worker.run settings { decoder := d } inputs = _
      rw [hinputs, Worker.run_append]
      rfl
    have hnears : w.stopped.Nears r (w.stopped.takes settings after) :=
      hr ▸ Worker.Nears.of_run rfl after
    exact ⟨hnears.calls_le_one, hnears.ended_or⟩
  · intro batches asked
    have hreflects := (Worker.Reflects.fresh settings d).run inputs
    have hperformed : (d.perform settings.surroundings asked).1 =
        (d.decodeBatches settings.surroundings batches).1 ++
          ((d.decodeBatches settings.surroundings batches).2.flush settings.surroundings).1 := by
      rw [Decoder.perform_append, Decoder.perform_batches, Decoder.perform_flush]
    have hlines : asked.filterMap DecoderCall.line? = batches.flatMap Batch.lines := by
      rw [List.filterMap_append, lines_calls]
      exact List.append_nil _
    have hclosed := Worker.ClosesLast.run (w := { decoder := d }) (fun hnew => absurd hnew (by simp))
      inputs hdone
    refine ⟨hlines, ?_, hclosed⟩
    rw [hperformed]
    exact hreflects.ended hdone

/-- A worker that is asked to stop while its source opens still polls it once. -/
example (surroundings : Surroundings) (d : Decoder) :
    let script : SourceScript :=
      { opens := [⟨.ok (), true⟩], polls := [⟨.error (.lost "gone"), false⟩, ⟨.ok {}, false⟩] }
    (script.play { surroundings } { decoder := d }).trace.map Observation.call =
      [.openSource, .pollSource, .closeSource, .closeSource, .exit] := by
  cbv

end LogIntake
