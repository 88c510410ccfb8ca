import LogIntake.Proofs.CommandLine.Orderly

/-!
# What the program prints

An event is printed in a round of the main thread, with what was thrown, or when the registry has been
closed, by its preview alone.

* `Program.accepted`: the events that the buffer accepts in a sequence of turns; `Program.inRounds` and
  `Program.atEnd`: those that are printed in rounds and at the end.
* `Program.run_conserves`: what has been accepted is printed or waits.
-/

namespace LogIntake.CommandLine.Program

variable {p : Program} {turn : Turn} {turns : List Turn}

/-! ## The events of a run -/

/-- The event that the buffer accepts in a turn. -/
def accepted? (p : Program) : Turn → Option Event
  | .push link =>
    if p.ring.waiting.length < p.ring.room then (p.handed.find? (·.1 = link)).map (·.2) else none
  | _ => none

/-- The event that is printed in a turn of a round. -/
def inRound? (p : Program) : Turn → Option Event
  | .main =>
    match p.stage with
    | .draining _ => p.ring.waiting.head?
    | _ => none
  | _ => none

/-- The event that is printed in a turn after the registry has been closed. -/
def atEnd? (p : Program) : Turn → Option Event
  | .main =>
    match p.stage with
    | .emptying => p.ring.waiting.head?
    | _ => none
  | _ => none

/-- The events that turns are about. -/
def collect (about : Program → Turn → Option Event) : Program → List Turn → List Event
  | _, [] => []
  | p, turn :: turns => (about p turn).toList ++ collect about (p.step turn) turns

/-- The events that the buffer accepts, in the order in which they are pushed. -/
def accepted (p : Program) (turns : List Turn) : List Event := collect accepted? p turns

/-- The events that are printed in rounds. -/
def inRounds (p : Program) (turns : List Turn) : List Event := collect inRound? p turns

/-- The events that are printed after the registry has been closed. -/
def atEnd (p : Program) (turns : List Turn) : List Event := collect atEnd? p turns

theorem collect_append (about : Program → Turn → Option Event) (p : Program)
    (front back : List Turn) :
    collect about p (front ++ back) = collect about p front ++ collect about (p.run front) back := by
  induction front generalizing p with
  | nil => rfl
  | cons turn front ih =>
    simp only [List.cons_append, collect, ih, List.append_assoc]
    rfl

theorem collect_eq_nil {about : Program → Turn → Option Event} {P : Program → Prop}
    (hstep : ∀ p turn, P p → P (p.step turn)) (hnone : ∀ p turn, P p → about p turn = none)
    (h : P p) (turns : List Turn) : collect about p turns = [] := by
  induction turns generalizing p with
  | nil => rfl
  | cons turn turns ih => rw [collect, hnone p turn h, ih (hstep p turn h)]; rfl

/-! ## One turn -/

theorem step_rules (p : Program) (turn : Turn) : (p.step turn).rules = p.rules := by
  cases turn <;> simp only [step, goMain, call, drain] <;> repeat' split
  all_goals rfl

theorem step_detail (p : Program) (turn : Turn) : (p.step turn).detail = p.detail := by
  cases turn <;> simp only [step, goMain, call, drain] <;> repeat' split
  all_goals rfl

theorem step_preview (p : Program) (turn : Turn) : (p.step turn).preview = p.preview := by
  funext e
  rw [preview, preview, step_rules, step_detail]

theorem step_eventLines (p : Program) (turn : Turn) :
    (p.step turn).eventLines = p.eventLines := by
  funext e
  rw [eventLines, eventLines, step_preview]

theorem step_isLate (p : Program) (turn : Turn) (h : p.stage.isLate = true) :
    (p.step turn).stage.isLate = true := by
  cases turn <;> simp only [step, goMain, call, drain] <;> repeat' split
  all_goals simp_all [Stage.isLate]

theorem drain_waiting (p : Program) (shown : Event → List String) (next : Stage) :
    (p.drain shown next).ring.waiting = p.ring.waiting.tail := by
  unfold drain RingSink.pop
  cases hwaiting : p.ring.waiting with
  | nil => exact hwaiting
  | cons e rest => rfl

theorem drain_lines (p : Program) (shown : Event → List String) (next : Stage) :
    (p.drain shown next).lines = p.lines ++ p.ring.waiting.head?.toList.flatMap shown := by
  unfold drain RingSink.pop
  cases p.ring.waiting <;> simp

/-- The main thread touches the buffer only where it prints. -/
theorem goMain_elsewhere (hround : ∀ stopping, p.stage ≠ .draining stopping)
    (hend : p.stage ≠ .emptying) : p.goMain.ring = p.ring ∧ p.goMain.lines = p.lines := by
  unfold goMain
  split
  case h_5 stopping hstage => exact absurd hstage (hround stopping)
  case h_8 hstage => exact absurd hstage hend
  all_goals try split
  all_goals exact ⟨rfl, rfl⟩

theorem goMain_waiting (p : Program) :
    p.ring.waiting =
      (p.inRound? .main).toList ++ (p.atEnd? .main).toList ++ p.goMain.ring.waiting := by
  unfold inRound? atEnd?
  cases hstage : p.stage with
  | draining stopping | emptying =>
    simp only [goMain, hstage, drain_waiting]
    cases p.ring.waiting <;> rfl
  | _ => rw [(goMain_elsewhere (by simp [hstage]) (by simp [hstage])).1]; rfl

theorem goMain_lines (p : Program) :
    p.goMain.lines = p.lines ++ (p.inRound? .main).toList.flatMap p.eventLines ++
      (p.atEnd? .main).toList.map p.preview := by
  unfold inRound? atEnd?
  cases hstage : p.stage with
  | draining stopping =>
    simp only [goMain, hstage, drain_lines, Option.toList_none, List.map_nil, List.append_nil]
  | emptying =>
    simp only [goMain, hstage, drain_lines, Option.toList_none, List.flatMap_nil, List.append_nil]
    cases p.ring.waiting <;> rfl
  | _ =>
    rw [(goMain_elsewhere (by simp [hstage]) (by simp [hstage])).2]
    simp

/-- **What has been accepted waits until it is printed.** -/
theorem step_waiting (p : Program) (turn : Turn) :
    p.ring.waiting ++ (p.accepted? turn).toList =
      (p.inRound? turn).toList ++ (p.atEnd? turn).toList ++ (p.step turn).ring.waiting := by
  cases turn with
  | main => exact (List.append_nil _).trans p.goMain_waiting
  | push link =>
    simp only [accepted?, inRound?, atEnd?, step]
    cases p.handed.find? (·.1 = link) with
    | none => simp
    | some entry =>
      simp only [RingSink.push]
      split <;> simp
  | _ =>
    simp only [accepted?, inRound?, atEnd?, step]
    try split
    all_goals simp

theorem step_lines (p : Program) (turn : Turn) :
    (p.step turn).lines = p.lines ++ (p.inRound? turn).toList.flatMap p.eventLines ++
      (p.atEnd? turn).toList.map p.preview := by
  cases turn with
  | main => exact p.goMain_lines
  | _ =>
    simp only [inRound?, atEnd?, step]
    try split
    all_goals simp

/-! ## Runs -/

/-- Once the registry is being closed, there are no more rounds. -/
theorem inRounds_of_isLate (h : p.stage.isLate = true) (turns : List Turn) : p.inRounds turns = [] := by
  refine collect_eq_nil (P := (·.stage.isLate = true)) step_isLate (fun p turn hlate => ?_) h turns
  cases turn with
  | main =>
    unfold inRound?
    cases hstage : p.stage <;> simp_all [Stage.isLate]
  | _ => rfl

/-- There are no more rounds after an event that is printed at the end. -/
theorem atEnd?_eq_none_or (p : Program) (turn : Turn) (turns : List Turn) :
    p.atEnd? turn = none ∨ (p.step turn).inRounds turns = [] := by
  cases hlast : p.atEnd? turn with
  | none => exact .inl rfl
  | some e =>
    have hlate : p.stage.isLate = true := by
      unfold atEnd? at hlast
      split at hlast
      · cases hstage : p.stage <;> simp_all [Stage.isLate]
      · cases hlast
    exact .inr (inRounds_of_isLate (p.step_isLate turn hlate) turns)

/-- **What has been accepted is printed, or still waits.** The events that are printed at the end come
after those that are printed in rounds. -/
theorem run_waiting (p : Program) (turns : List Turn) :
    p.ring.waiting ++ p.accepted turns =
      p.inRounds turns ++ p.atEnd turns ++ (p.run turns).ring.waiting := by
  induction turns generalizing p with
  | nil => simp [accepted, inRounds, atEnd, collect, run]
  | cons turn turns ih =>
    calc p.ring.waiting ++ p.accepted (turn :: turns)
        = p.ring.waiting ++ (p.accepted? turn).toList ++ (p.step turn).accepted turns :=
          (List.append_assoc ..).symm
      _ = (p.inRound? turn).toList ++ (p.atEnd? turn).toList ++
            ((p.step turn).ring.waiting ++ (p.step turn).accepted turns) := by
          rw [step_waiting, List.append_assoc]
      _ = (p.inRound? turn).toList ++ ((p.atEnd? turn).toList ++ (p.step turn).inRounds turns) ++
            (p.step turn).atEnd turns ++ ((p.step turn).run turns).ring.waiting := by
          simp only [ih, List.append_assoc]
      _ = p.inRounds (turn :: turns) ++ p.atEnd (turn :: turns) ++
            (p.run (turn :: turns)).ring.waiting := by
          obtain hnone | hnone := p.atEnd?_eq_none_or turn turns <;>
            simp_all [inRounds, atEnd, collect, run]

/-- **The events of rounds are shown with what was thrown**, and those at the end by their previews. -/
theorem run_lines (p : Program) (turns : List Turn) :
    (p.run turns).lines =
      p.lines ++ (p.inRounds turns).flatMap p.eventLines ++ (p.atEnd turns).map p.preview := by
  induction turns generalizing p with
  | nil => simp [inRounds, atEnd, collect, run]
  | cons turn turns ih =>
    have hnext := ih (p.step turn)
    rw [step_preview, step_eventLines, step_lines] at hnext
    obtain hnone | hnone := p.atEnd?_eq_none_or turn turns <;>
      simp_all [inRounds, atEnd, collect, run]

/-! ## The end -/

/-- **Nothing is accepted once the registry is being closed.** -/
theorem Orderly.accepted_of_isLate (h : p.Orderly) (hlate : p.stage.isLate = true)
    (turns : List Turn) : p.accepted turns = [] := by
  have hstep : ∀ (q : Program) (turn : Turn), q.Orderly ∧ q.stage.isLate = true →
      (q.step turn).Orderly ∧ (q.step turn).stage.isLate = true := by
    intro q turn hq
    have hearly : q.stage.isLate = false → turn ≠ .interrupt := fun hnot => by
      cases hnot.symm.trans hq.2
    exact ⟨hq.1.step hearly, q.step_isLate turn hq.2⟩
  refine collect_eq_nil hstep (fun q turn hq => ?_) ⟨h, hlate⟩ turns
  cases turn with
  | push link => simp [accepted?, hq.1.handed_of_isLate hq.2]
  | _ => rfl

/-- Previews alone show all there is to show if nothing was thrown. -/
theorem map_preview_eq_iff (p : Program) (events : List Event) :
    events.map p.preview = events.flatMap p.eventLines ↔ ∀ e ∈ events, e.throwable = [] := by
  have hlength : ∀ events : List Event, events.length ≤ (events.flatMap p.eventLines).length := by
    intro events
    induction events with
    | nil => exact le_rfl
    | cons e events ih =>
      simp only [List.flatMap_cons, List.length_append, List.length_cons, eventLines]
      omega
  induction events with
  | nil => simp
  | cons e events ih =>
    rw [List.map_cons, List.flatMap_cons, List.forall_mem_cons, eventLines, List.cons_append,
      List.cons.injEq]
    constructor
    · rintro ⟨-, heq⟩
      have hshort := hlength events
      have hlengths := congrArg List.length heq
      rw [List.length_map, List.length_append] at hlengths
      have hnone : e.throwable = [] := List.eq_nil_of_length_eq_zero (by omega)
      exact ⟨hnone, ih.mp (by simpa [hnone] using heq)⟩
    · rintro ⟨hnone, hrest⟩
      exact ⟨rfl, by rw [hnone, List.nil_append, ih.mpr hrest]⟩

/-- A program that begins with an empty buffer and has printed all that was accepted has shown
everything exactly if nothing was thrown with the events of the end. -/
theorem lines_eq_iff (hwaiting : p.ring.waiting = []) (hlines : p.lines = [])
    (hend : (p.run turns).ring.waiting = []) :
    (p.run turns).lines = (p.accepted turns).flatMap p.eventLines ↔
      ∀ e ∈ p.atEnd turns, e.throwable = [] := by
  have haccepted := p.run_waiting turns
  rw [hwaiting, hend, List.nil_append, List.append_nil] at haccepted
  rw [run_lines, haccepted, hlines, List.nil_append, List.flatMap_append, List.append_cancel_left_eq]
  exact p.map_preview_eq_iff _

/-- **What a program prints that reads everything once.** When its main thread has ended, every event that
the buffer has accepted has been printed once, in the order in which they were pushed, and none is
accepted any more. Those of the rounds are shown with what was thrown, and those that come up at the end
by their previews; so everything is shown exactly if nothing was thrown with these. -/
theorem lines_of_ended {arguments : Arguments} (once : arguments.once = true) (settings : Settings)
    (surroundings : Surroundings) (discovery : Except String Unit) (hturns : .interrupt ∉ turns)
    (hended : ((begin arguments settings surroundings discovery).run turns).stage = .ended) :
    let p := begin arguments settings surroundings discovery
    p.accepted turns = p.inRounds turns ++ p.atEnd turns ∧
      (p.run turns).lines =
        (p.inRounds turns).flatMap p.eventLines ++ (p.atEnd turns).map p.preview ∧
      (∀ more, p.accepted (turns ++ more) = p.accepted turns) ∧
      ((p.run turns).lines = (p.accepted turns).flatMap p.eventLines ↔
        ∀ e ∈ p.atEnd turns, e.throwable = []) := by
  intro p
  have horderly : (p.run turns).Orderly := (Orderly.begin once settings surroundings discovery).run hturns
  have hend := horderly.ended hended
  refine ⟨?_, p.run_lines turns, fun more => ?_, lines_eq_iff rfl rfl hend⟩
  · have haccepted := p.run_waiting turns
    rwa [hend, List.append_nil] at haccepted
  · rw [accepted, collect_append]
    have hnone := horderly.accepted_of_isLate (by rw [hended]; rfl) more
    exact (congrArg _ hnone).trans (List.append_nil _)

/-- A file that is read once. -/
def singleFile : Program :=
  begin { file := some "/log", once := true, format := some "LEVEL - MESSAGE" } {}
    ⟨⟨.utc, 1970⟩, fun _ => 0⟩ (.ok ())

/-- The file is connected, and the main thread goes on to its first round. -/
def connecting : List Turn := .main :: List.replicate 6 (.advance 0) ++ [.main, .main, .main]

/-- The file is read. -/
def reading : List Turn :=
  [.work 0 .tick, .work 0 (.opened (.ok ())),
    .work 0 (.polled (.ok ⟨["ERROR - lost", "\tat app.Main"], true⟩)), .push 0]

/-- The main thread finds that no link is in force any more, closes the registry and ends. -/
def ending : List Turn := [.main, .advance 2, .main, .main, .main]

/-- The worker ends before the main thread looks into the buffer. -/
def punctualExit : List Turn :=
  connecting ++ reading ++ List.replicate 4 (.advance 1) ++ [.main, .main] ++ ending

/-- The worker ends between the last look into the buffer and the look at the registry. -/
def tightExit : List Turn :=
  connecting ++ [.main] ++ reading ++ List.replicate 4 (.advance 1) ++ ending

/-- All that the file says is shown. -/
theorem lines_of_ended_punctualExit :
    (singleFile.run punctualExit).stage = .ended ∧
      (singleFile.accepted punctualExit).map (·.throwable) = [["\tat app.Main"]] ∧
      (singleFile.run punctualExit).lines =
        (singleFile.accepted punctualExit).flatMap singleFile.eventLines := by
  have hended : (singleFile.run punctualExit).stage = .ended := Stage.eq_ended (by decide +kernel)
  have hturns : .interrupt ∉ punctualExit := by
    simp [punctualExit, connecting, reading, ending]
  obtain ⟨-, -, -, hiff⟩ := lines_of_ended rfl {} _ _ hturns hended
  have hnone : ∀ e ∈ singleFile.atEnd punctualExit, e.throwable = [] := by
    have hnil : singleFile.atEnd punctualExit = [] := List.isEmpty_iff.mp (by decide +kernel)
    simp [hnil]
  exact ⟨hended, by decide +kernel, hiff.mpr hnone⟩

/-- **What was thrown with an event is not shown** if its worker ends between the last look into the
buffer and the look at the registry. -/
theorem not_eventLines_tightExit :
    (singleFile.run tightExit).stage = .ended ∧ .interrupt ∉ tightExit ∧
      (singleFile.accepted tightExit).map (·.throwable) = [["\tat app.Main"]] ∧
      (singleFile.run tightExit).lines ≠
        (singleFile.accepted tightExit).flatMap singleFile.eventLines := by
  have hended : (singleFile.run tightExit).stage = .ended := Stage.eq_ended (by decide +kernel)
  have hend : (singleFile.run tightExit).ring.waiting = [] :=
    List.isEmpty_iff.mp (by decide +kernel)
  refine ⟨hended, by simp [tightExit, connecting, reading, ending], by decide +kernel, fun heq => ?_⟩
  have hnone := (lines_eq_iff rfl rfl hend).mp heq
  have hlost : (singleFile.atEnd tightExit).any (!·.throwable.isEmpty) = true := by decide +kernel
  obtain ⟨e, he, hthrown⟩ := List.any_eq_true.mp hlost
  simp [hnone e he] at hthrown

end LogIntake.CommandLine.Program
