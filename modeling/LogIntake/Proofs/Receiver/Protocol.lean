import LogIntake.Proofs.Receiver.Delivery
import LogIntake.Receiver.Script

/-!
# The protocol between a worker and its source

* `Happening`: an answer of the source, the exit of the worker, a call; `Worker.history`: all that happens
  in a run.
* `SourceState`: what is known of a source after a history, and the calls that it allows.
* `OwnerView`: what the owner of the worker is to see after a history.
* `FollowsProtocol`: every call of a history is allowed, and the owner sees what it should as it begins.
* `Worker.Abides`: a worker after a history that follows the protocol; **`Worker.Abides.step`**: kept by
  every input.
* **`follows_protocol`**: whatever a source answers and whenever the owner asks the worker to stop, the
  worker follows the protocol, and a run that has ended has closed its source last.
-/

namespace LogIntake

/-! ## Histories -/

/-- What happens between a worker and its source. -/
inductive Happening where
  /-- The source answers the call to open it. -/
  | opened (result : Except SourceError Unit)
  /-- The source answers a poll. -/
  | polled (result : Except SourceError Batch)
  /-- The worker records that it has come to its end. -/
  | ended
  /-- The worker makes a call. -/
  | called (observation : Observation)

/-- The call that is made. -/
def Happening.call? : Happening → Option Observation
  | .called o => some o
  | .opened _ | .polled _ | .ended => none

/-- What is known of a source from outside. -/
structure SourceState where
  /-- It has been opened, and has not been closed since. -/
  isOpen : Bool := false
  /-- It has been lost, and has not been closed since. -/
  isLost : Bool := false
  /-- It has said that it is closed for good. -/
  isOver : Bool := false
deriving DecidableEq

namespace SourceState

/-- What is known of a source after one more happening. -/
def after (s : SourceState) : Happening → SourceState
  | .opened (.ok _) => { s with isOpen := true }
  | .opened (.error .closed) => { s with isOpen := false, isOver := true }
  | .opened (.error _) => { s with isOpen := false }
  | .polled (.error .closed) => { s with isOver := true }
  | .polled (.error e) => { s with isLost := e.isLoss || s.isLost }
  | .called o => if o.call = .closeSource then { s with isOpen := false, isLost := false } else s
  | .polled (.ok _) | .ended => s

/-- The calls that are allowed: an open source may be polled and one that is not open may be opened, but a
lost one must be closed before, and one that is over may only be closed. -/
def allows (s : SourceState) : SourceCall → Bool
  | .openSource => !s.isOpen && !s.isLost && !s.isOver
  | .pollSource => s.isOpen && !s.isLost && !s.isOver
  | .closeSource | .exit => true

end SourceState

/-- What the owner of a worker can see. -/
structure OwnerView where
  connected : Bool := false
  opened : Bool := false
deriving DecidableEq

/-- What the owner can see after one more happening: the worker is connected from the opening of its
source until the source is lost or the worker has ended. -/
def OwnerView.after (v : OwnerView) : Happening → OwnerView
  | .opened (.ok _) => { connected := true, opened := true }
  | .polled (.error e) => { v with connected := !e.isLoss && v.connected }
  | .ended => { v with connected := false }
  | .opened (.error _) | .polled (.ok _) | .called _ => v

/-- What is known of a source after a history. -/
def sourceAfter (history : List Happening) : SourceState :=
  history.foldl SourceState.after {}

/-- What the owner is to see after a history. -/
def viewAfter (history : List Happening) : OwnerView :=
  history.foldl OwnerView.after {}

theorem opened_viewAfter_append {front : List Happening} (h : (viewAfter front).opened = true)
    (back : List Happening) : (viewAfter (front ++ back)).opened = true := by
  rw [viewAfter, List.foldl_append, ← viewAfter]
  generalize viewAfter front = v at h
  induction back generalizing v with
  | nil => exact h
  | cons x back ih =>
    refine ih _ ?_
    cases x with
    | opened result =>
      cases result with
      | ok _ => rfl
      | error _ => exact h
    | polled result => cases result <;> exact h
    | ended | called => exact h

/-- Every call is allowed by what has happened before it, and the owner sees then what it should. -/
def FollowsProtocol (history : List Happening) : Prop :=
  ∀ before o, before ++ [.called o] <+: history →
    (sourceAfter before).allows o.call = true ∧ viewAfter before = ⟨o.connected, o.opened⟩

namespace Worker

/-- The answer of its source that a worker takes. -/
def answered (w : Worker) : Input → List Happening
  | .opened result => if w.phase = .opening then [.opened result] else []
  | .polled result => if w.phase = .polling then [.polled result] else []
  | .tick | .stop => []

/-- What happens in a step: the worker takes an answer, may come to its end, and makes calls. -/
def happenings (settings : ReceiverSettings) (w : Worker) (input : Input) : List Happening :=
  w.answered input ++
    (if w.phase ≠ .done ∧ (w.step settings input).phase = .done then [.ended] else []) ++
    ((w.step settings input).trace.drop w.trace.length).map .called

/-- What happens in a run. -/
def history (settings : ReceiverSettings) : Worker → List Input → List Happening
  | _, [] => []
  | w, input :: inputs => w.happenings settings input ++ history settings (w.step settings input) inputs

end Worker

/-! ## One more happening -/

/-- A history that follows the protocol, with the calls in it and the state that it leads to. -/
structure Conforms (history : List Happening) (calls : List Observation) (view : OwnerView)
    (source : SourceState) : Prop where
  protocol : FollowsProtocol history
  calls : history.filterMap Happening.call? = calls
  view : viewAfter history = view
  source : sourceAfter history = source

namespace Conforms

variable {history : List Happening} {calls : List Observation} {view : OwnerView}
  {source : SourceState}

theorem nil : Conforms [] [] {} {} :=
  ⟨fun before o h => absurd (List.prefix_nil.mp h) (by simp), rfl, rfl, rfl⟩

theorem snoc (h : Conforms history calls view source) (x : Happening)
    (hcall : ∀ o, x = .called o → source.allows o.call = true ∧ view = ⟨o.connected, o.opened⟩) :
    Conforms (history ++ [x]) (calls ++ x.call?.toList) (view.after x) (source.after x) where
  protocol := fun before o hprefix => by
    rcases List.prefix_concat_iff.mp hprefix with heq | hprefix
    · obtain ⟨rfl, hx⟩ := List.append_inj' heq rfl
      obtain rfl := (List.cons.inj hx).1
      rw [h.source, h.view]
      exact hcall o rfl
    · exact h.protocol before o hprefix
  calls := by
    rw [List.filterMap_append, h.calls]
    cases x <;> rfl
  view := by
    rw [viewAfter, List.foldl_append, ← viewAfter, h.view]
    rfl
  source := by
    rw [sourceAfter, List.foldl_append, ← sourceAfter, h.source]
    rfl

/-- An answer, or the end of the worker. -/
theorem answer (h : Conforms history calls view source) {x : Happening} (hx : x.call? = none) :
    Conforms (history ++ [x]) calls (view.after x) (source.after x) := by
  have hsnoc := h.snoc x fun o ho => absurd hx (by rw [ho]; simp [Happening.call?])
  rwa [hx, Option.toList_none, List.append_nil] at hsnoc

/-- A call that is allowed. -/
theorem call (h : Conforms history calls view source) {o : Observation}
    (hallowed : source.allows o.call = true) (hview : view = ⟨o.connected, o.opened⟩) :
    Conforms (history ++ [.called o]) (calls ++ [o]) view (source.after (.called o)) :=
  h.snoc (.called o) fun o' ho => by
    obtain rfl := Happening.called.inj ho
    exact ⟨hallowed, hview⟩

end Conforms

/-! ## A step of a worker -/

namespace Worker

variable {settings : ReceiverSettings} {w : Worker} {history : List Happening}

/-- What is known of the source of a worker that has not ended. -/
def source (w : Worker) : SourceState := { isOpen := w.phase = .polling || w.phase = .idle }

/-- What the owner of a worker can see. -/
def view (w : Worker) : OwnerView := ⟨w.connected, w.hasOpened⟩

/-- A worker that has not ended, after a history that follows the protocol: its owner has not been told
of its end. -/
structure Runs (w : Worker) (history : List Happening) : Prop where
  conforms : Conforms history w.trace w.view w.source
  notTold : .exit ∉ w.trace.map Observation.call

/-- The last call on the source was to close it, and the owner has been told once. -/
def HasClosed (w : Worker) : Prop :=
  ∃ earlier, w.trace.map Observation.call = earlier ++ [.closeSource, .exit] ∧ .exit ∉ earlier

/-- **A worker after a history that follows the protocol.** -/
structure Abides (w : Worker) (history : List Happening) : Prop where
  running : w.phase ≠ .done → w.Runs history
  ended : w.phase = .done → (∃ source, Conforms history w.trace w.view source) ∧ w.HasClosed

theorem Abides.fresh (d : Decoder) : Abides { decoder := d } [] :=
  ⟨fun _ => ⟨.nil, by simp⟩, fun h => absurd h (by simp)⟩

/-! ### What happens -/

variable {input : Input} {source : SourceState}

/-- A step after which the worker goes on. -/
theorem Abides.of_running (calls : List Observation)
    (htrace : (w.step settings input).trace = w.trace ++ calls)
    (hphase : (w.step settings input).phase ≠ .done)
    (h : Conforms (history ++ w.answered input ++ calls.map .called) (w.trace ++ calls)
      (w.step settings input).view (w.step settings input).source)
    (hnot : .exit ∉ (w.trace ++ calls).map Observation.call) :
    (w.step settings input).Abides (history ++ w.happenings settings input) := by
  have hhappenings : w.happenings settings input = w.answered input ++ calls.map .called := by
    rw [happenings, htrace, List.drop_left, if_neg fun h => hphase h.2, List.append_nil]
  rw [hhappenings, ← List.append_assoc]
  exact ⟨fun _ => ⟨by rwa [htrace], by rwa [htrace]⟩, fun hdone => absurd hdone hphase⟩

/-- A call of a worker that comes to its end. -/
def lastCall (settings : ReceiverSettings) (w : Worker) (c : SourceCall) : Observation :=
  ⟨c, false, w.hasOpened, (w.finish settings).pushed.length⟩

theorem finish_trace (w : Worker) : (w.finish settings).trace =
    w.trace ++ [w.lastCall settings .closeSource, w.lastCall settings .exit] :=
  List.append_assoc w.trace [_] [_]

/-- A step with which the worker ends: it closes its source and tells its owner. -/
theorem Abides.of_ended {w' : Worker} (hstep : w.step settings input = w'.finish settings)
    (htrace : w'.trace = w.trace) (hrunning : w.phase ≠ .done)
    (h : Conforms (history ++ w.answered input) w.trace w'.view source)
    (hnot : .exit ∉ w.trace.map Observation.call) :
    (w.step settings input).Abides (history ++ w.happenings settings input) := by
  have hcalls : (w.step settings input).trace =
      w.trace ++ [w'.lastCall settings .closeSource, w'.lastCall settings .exit] := by
    rw [hstep, finish_trace, htrace]
  have hdone : (w.step settings input).phase = .done := by
    rw [hstep]
    rfl
  have hhappenings : w.happenings settings input = w.answered input ++ [.ended,
      .called (w'.lastCall settings .closeSource), .called (w'.lastCall settings .exit)] := by
    rw [happenings, hcalls, List.drop_left, if_pos ⟨hrunning, hdone⟩, List.append_assoc]
    rfl
  have hclosed := (h.answer (x := .ended) rfl).call (o := w'.lastCall settings .closeSource) rfl rfl
  have htold := hclosed.call (o := w'.lastCall settings .exit) rfl rfl
  have hview : (w.step settings input).view = w'.view.after .ended := by
    rw [hstep]
    rfl
  have hlast : (w.step settings input).HasClosed :=
    ⟨w.trace.map Observation.call, by rw [hcalls, List.map_append]; rfl, hnot⟩
  simp only [List.append_assoc, List.cons_append, List.nil_append] at htold
  rw [← hhappenings, ← hcalls, ← hview] at htold
  exact ⟨fun hne => absurd hdone hne, fun _ => ⟨⟨_, htold⟩, hlast⟩⟩

/-- What does not concern a worker does not count. -/
theorem Abides.of_same (h : w.Abides history) (hstep : w.step settings input = w)
    (hanswered : w.answered input = []) :
    (w.step settings input).Abides (history ++ w.happenings settings input) := by
  have hhappenings : w.happenings settings input = [] := by
    rw [happenings, hstep, hanswered, if_neg fun h' => h'.1 h'.2, List.drop_length]
    rfl
  rwa [hhappenings, List.append_nil, hstep]

/-! ### The handlers -/

theorem source_eq (hpolling : w.phase ≠ .polling) (hidle : w.phase ≠ .idle) : w.source = {} := by
  simp [Worker.source, hpolling, hidle]

theorem Runs.opened (h : w.Runs history) (hphase : w.phase = .opening)
    (result : Except SourceError Unit) : (w.step settings (.opened result)).Abides
      (history ++ w.happenings settings (.opened result)) := by
  have hstep : w.step settings (.opened result) = w.onOpened settings result := if_pos hphase
  have hanswered : w.answered (.opened result) = [.opened result] := if_pos hphase
  have hanswer := h.conforms.answer (x := .opened result) rfl
  rw [source_eq (by simp [hphase]) (by simp [hphase]), ← hanswered] at hanswer
  cases result with
  | ok _ =>
    refine .of_running [⟨.pollSource, true, true, w.pushed.length⟩]
      (by rw [hstep]; rfl) (by simp [hstep, onOpened, call]) ?_ (by simpa using h.notTold)
    rw [hstep]
    exact hanswer.call rfl rfl
  | error e =>
    cases e with
    | closed => exact .of_ended hstep rfl (by simp [hphase]) hanswer h.notTold
    | unreachable | lost | transient =>
      refine .of_running [] (by rw [hstep]; exact (List.append_nil _).symm)
        (by simp [hstep, onOpened]) ?_ (by simpa using h.notTold)
      rw [hstep, List.map_nil, List.append_nil, List.append_nil]
      exact hanswer

/-- After a poll that did not lose the source the worker goes on, or ends after a single pass. -/
theorem Runs.afterPoll (h : w.Runs history) (hphase : w.phase = .polling) {w' : Worker}
    (hstep : w.step settings input = w'.afterPoll settings) (htrace : w'.trace = w.trace)
    (hanswer : Conforms (history ++ w.answered input) w.trace w'.view { isOpen := true }) :
    (w.step settings input).Abides (history ++ w.happenings settings input) := by
  rw [Worker.afterPoll] at hstep
  split at hstep
  · refine .of_running [] (by rw [hstep, List.append_nil]; exact htrace) (by simp [hstep]) ?_
      (by simpa using h.notTold)
    rw [hstep, List.map_nil, List.append_nil, List.append_nil]
    exact hanswer
  · exact .of_ended hstep htrace (by simp [hphase]) hanswer h.notTold

theorem Runs.polled (h : w.Runs history) (hphase : w.phase = .polling)
    (result : Except SourceError Batch) : (w.step settings (.polled result)).Abides
      (history ++ w.happenings settings (.polled result)) := by
  have hstep : w.step settings (.polled result) = w.onPolled settings result := if_pos hphase
  have hanswered : w.answered (.polled result) = [.polled result] := if_pos hphase
  have hsource : w.source = { isOpen := true } := by simp [Worker.source, hphase]
  have hanswer := h.conforms.answer (x := .polled result) rfl
  rw [hsource, ← hanswered] at hanswer
  cases result with
  | ok batch =>
    refine h.afterPoll hphase hstep ?_ ?_
    · rw [takeBatch_eq]
      rfl
    · rw [takeBatch_eq]
      exact hanswer
  | error e =>
    cases e with
    | transient reason => exact h.afterPoll hphase hstep rfl hanswer
    | closed => exact .of_ended hstep rfl (by simp [hphase]) hanswer h.notTold
    | unreachable | lost =>
      refine .of_running [⟨.closeSource, false, w.hasOpened, w.pushed.length⟩]
        (by rw [hstep]; rfl) (by simp [hstep, onPolled, Worker.call]) ?_ (by simpa using h.notTold)
      rw [hstep]
      exact hanswer.call rfl rfl

/-- A wait is over, or the worker begins. -/
theorem Runs.ticked (h : w.Runs history) (hwaits : w.phase = .ready ∨ w.phase = .retrying ∨ w.phase = .idle) :
    (w.step settings .tick).Abides (history ++ w.happenings settings .tick) := by
  have hanswer : Conforms (history ++ w.answered .tick) w.trace w.view w.source := by
    rw [show w.answered .tick = [] from rfl, List.append_nil]
    exact h.conforms
  cases hstop : w.signal.closed with
  | true =>
    refine Abides.of_ended (?_ : _ = w.finish settings) rfl ?_ hanswer h.notTold
    · rcases hwaits with hphase | hphase | hphase <;> simp [step, onTick, hphase, hstop]
    · rcases hwaits with hphase | hphase | hphase <;> simp [hphase]
  | false =>
    rcases hwaits with hphase | hphase | hphase
    · have hstep : w.step settings .tick = { w with phase := .opening }.call .openSource := by
        simp [step, onTick, hphase, hstop]
      rw [source_eq (by simp [hphase]) (by simp [hphase])] at hanswer
      refine .of_running [⟨.openSource, w.connected, w.hasOpened, w.pushed.length⟩]
        (by rw [hstep]; rfl) (by simp [hstep, Worker.call]) ?_ (by simpa using h.notTold)
      rw [hstep]
      exact hanswer.call rfl rfl
    · have hstep : w.step settings .tick = { w with phase := .ready } := by
        simp [step, onTick, hphase, hstop]
      rw [source_eq (by simp [hphase]) (by simp [hphase])] at hanswer
      refine .of_running [] (by rw [hstep]; exact (List.append_nil _).symm) (by simp [hstep]) ?_
        (by simpa using h.notTold)
      rw [hstep, List.map_nil, List.append_nil, List.append_nil]
      exact hanswer
    · have hstep : w.step settings .tick = { w with phase := .polling }.call .pollSource := by
        simp [step, onTick, hphase, hstop]
      have hsource : w.source = { isOpen := true } := by simp [Worker.source, hphase]
      rw [hsource] at hanswer
      refine .of_running [⟨.pollSource, w.connected, w.hasOpened, w.pushed.length⟩]
        (by rw [hstep]; rfl) (by simp [hstep, Worker.call]) ?_ (by simpa using h.notTold)
      rw [hstep]
      exact hanswer.call rfl rfl

/-- **Every input keeps the protocol.** -/
theorem Abides.step (h : w.Abides history) (input : Input) :
    (w.step settings input).Abides (history ++ w.happenings settings input) := by
  cases input with
  | opened result =>
    by_cases hphase : w.phase = .opening
    · exact (h.running (by simp [hphase])).opened hphase result
    · exact h.of_same (if_neg hphase) (if_neg hphase)
  | polled result =>
    by_cases hphase : w.phase = .polling
    · exact (h.running (by simp [hphase])).polled hphase result
    · exact h.of_same (if_neg hphase) (if_neg hphase)
  | tick =>
    by_cases hwaits : w.phase = .ready ∨ w.phase = .retrying ∨ w.phase = .idle
    · refine (h.running ?_).ticked hwaits
      rcases hwaits with hphase | hphase | hphase <;> simp [hphase]
    · refine h.of_same ?_ rfl
      rw [Worker.step, onTick]
      cases hphase : w.phase <;> simp [hphase] at hwaits ⊢
  | stop =>
    have hhappenings : w.happenings settings .stop = [] := by
      rw [happenings, if_neg fun h' => h'.1 h'.2]
      exact congrArg (List.map Happening.called) List.drop_length
    rw [hhappenings, List.append_nil]
    exact ⟨fun hne => ⟨(h.running hne).conforms, (h.running hne).notTold⟩, h.ended⟩

theorem Abides.run (h : w.Abides history) (inputs : List Input) :
    (w.run settings inputs).Abides (history ++ w.history settings inputs) := by
  induction inputs generalizing w history with
  | nil => rwa [Worker.history, List.append_nil]
  | cons input inputs ih =>
    rw [Worker.history, ← List.append_assoc]
    exact ih (h.step input)

theorem Abides.exists_conforms (h : w.Abides history) :
    ∃ source, Conforms history w.trace w.view source := by
  by_cases hdone : w.phase = .done
  · exact (h.ended hdone).1
  · exact ⟨_, (h.running hdone).conforms⟩

end Worker

/-- **A worker follows the protocol of its source**, whatever the source answers and whenever the owner
asks the worker to stop: every call is allowed when it is made, and the owner sees then, as after every
input, whether the source is connected and whether it has been open before. A source that has been open is
known to have been ever after, and a run that has ended has closed its source with its last call on it. -/
theorem follows_protocol (settings : ReceiverSettings) (d : Decoder) (inputs : List Input) :
    let w : Worker := { decoder := d }
    let history := w.history settings inputs
    let r := w.run settings inputs
    history.filterMap Happening.call? = r.trace ∧ FollowsProtocol history ∧
      viewAfter history = ⟨r.connected, r.hasOpened⟩ ∧
      (r.hasOpened = true → ∀ more, (r.run settings more).hasOpened = true) ∧
      (r.phase = .done → ∃ earlier,
        r.trace.map Observation.call = earlier ++ [.closeSource, .exit] ∧ .exit ∉ earlier) := by
  intro w history r
  have habides : r.Abides history := (Worker.Abides.fresh d).run inputs
  obtain ⟨source, hconforms⟩ := habides.exists_conforms
  refine ⟨hconforms.calls, hconforms.protocol, hconforms.view, fun hopened more => ?_,
    fun hdone => (habides.ended hdone).2⟩
  have hagain : (r.run settings more).Abides (history ++ r.history settings more) := habides.run more
  obtain ⟨later, hlater⟩ := hagain.exists_conforms
  have hview : (viewAfter history).opened = true := by
    rw [hconforms.view]
    exact hopened
  have hmore := opened_viewAfter_append hview (r.history settings more)
  rw [hlater.view] at hmore
  exact hmore

/-- A source that is lost, cannot be opened at once and is then closed for good. -/
example (surroundings : Surroundings) (d : Decoder) :
    let script : SourceScript :=
      { opens := [⟨.ok (), false⟩, ⟨.error (.unreachable "away"), false⟩, ⟨.ok (), false⟩]
        polls := [⟨.error (.lost "gone"), false⟩] }
    (script.play { surroundings } { decoder := d }).trace.map Observation.call =
      [.openSource, .pollSource, .closeSource, .openSource, .openSource, .pollSource, .closeSource,
        .exit] := by
  cbv

end LogIntake
