import LogIntake.CommandLine.Session
import LogIntake.Proofs.CommandLine.Printing

/-!
# Rounds of a session

In a session nothing happens between the last look of the main thread into the buffer and its look at
the registry.

* `Session.desk`: what the main thread deals with, which tasks leave as it is.
* **`Session.round_lines`**: a round shows all events that wait, with what was thrown.
-/

namespace LogIntake.CommandLine

/-- **The main thread prints all that waits**, with what was thrown, if nothing comes in between. -/
theorem Program.run_draining {p : Program} {stopping : Bool} (events : List Event)
    (hevents : p.ring.waiting = events) (hstage : p.stage = .draining stopping) :
    p.run (List.replicate (events.length + 1) .main) =
      { p with
        ring := { p.ring with waiting := [] }
        lines := p.lines ++ events.flatMap p.eventLines
        stage := .checking stopping } := by
  induction events generalizing p with
  | nil =>
    have hstep : p.step .main = { p with stage := .checking stopping } := by
      simp only [step, goMain, hstage, drain, RingSink.pop, hevents]
    have hring : { p.ring with waiting := [] } = p.ring := by rw [← hevents]
    rw [List.length_nil, List.replicate_one, run, List.foldl_cons, List.foldl_nil, hstep, hring,
      List.flatMap_nil, List.append_nil]
  | cons e events ih =>
    have hstep : p.step .main =
        { p with ring := { p.ring with waiting := events }, lines := p.lines ++ p.eventLines e } := by
      simp only [step, goMain, hstage, drain, RingSink.pop, hevents]
    have hrest := ih (p := p.step .main) (by rw [hstep]) (by rw [hstep, hstage])
    rw [step_eventLines] at hrest
    rw [List.length_cons, List.replicate_succ, run, List.foldl_cons]
    refine hrest.trans ?_
    rw [hstep, List.flatMap_cons, List.append_assoc]

/-- Nothing is printed where nothing waits. -/
theorem Program.goMain_of_empty {p : Program} (h : p.ring.waiting = []) :
    p.goMain.ring.waiting = [] ∧ p.goMain.lines = p.lines := by
  have hwaiting := p.goMain_waiting
  have hlines := p.goMain_lines
  rw [h] at hwaiting
  obtain ⟨hnone, hempty⟩ := List.append_eq_nil_iff.mp hwaiting.symm
  obtain ⟨hround, hend⟩ := List.append_eq_nil_iff.mp hnone
  exact ⟨hempty, by simpa [hround, hend] using hlines⟩

namespace Session

/-- What the main thread deals with. -/
def desk (s : Session) : Stage × RingSink Event × List String := (s.stage, s.ring, s.lines)

theorem desk_foldl {α : Type} {f : Session → α → Session} (h : ∀ s a, (f s a).desk = s.desk)
    (l : List α) (s : Session) : (l.foldl f s).desk = s.desk := by
  induction l generalizing s with
  | nil => rfl
  | cons a l ih => exact (ih (f s a)).trans (h s a)

theorem desk_addSource (s : Session) (number : Nat) (connection : Connection) :
    (s.addSource number connection).desk = s.desk := by
  unfold addSource
  repeat' split
  all_goals rfl

theorem desk_advance (s : Session) (task : Nat) : (s.advance task).desk = s.desk := by
  have hturn : (s.turn (.advance task)).desk = s.desk := by
    simp only [turn, Program.step]
    split <;> rfl
  exact (desk_foldl (fun s (creation : Nat × Connection) => s.desk_addSource creation.1 creation.2)
    _ _).trans hturn

/-- The tasks leave what the main thread deals with as it is. -/
theorem desk_finishTasks (s : Session) : s.finishTasks.desk = s.desk :=
  desk_foldl (fun s _ => desk_foldl desk_advance (List.range s.registry.tasks.length) s) _ s

theorem foldl_main (events : List Event) (s : Session) :
    (events.foldl (fun s _ => s.turn .main) s).toProgram =
      s.toProgram.run (List.replicate events.length .main) := by
  induction events generalizing s with
  | nil => rfl
  | cons e events ih => exact ih (s.turn .main)

theorem drain_eq (s : Session) : s.drain.toProgram =
    s.toProgram.run (List.replicate (s.ring.waiting.length + 1) .main) := by
  rw [List.replicate_succ', Program.run, List.foldl_append]
  exact congrArg Program.goMain (foldl_main s.ring.waiting s)

theorem turn_of_empty {s : Session} (h : s.ring.waiting = []) :
    (s.turn .main).ring.waiting = [] ∧ (s.turn .main).lines = s.lines :=
  Program.goMain_of_empty h

theorem drain_of_empty {s : Session} (h : s.ring.waiting = []) :
    s.drain.ring.waiting = [] ∧ s.drain.lines = s.lines := by
  rw [drain, h, List.foldl_nil]
  exact turn_of_empty h

theorem goMain_of_empty {s : Session} (h : s.ring.waiting = []) :
    s.goMain.ring.waiting = [] ∧ s.goMain.lines = s.lines := by
  have hdesk := (s.turn .main).desk_finishTasks
  simp only [desk, Prod.mk.injEq] at hdesk
  rw [goMain, hdesk.2.1, hdesk.2.2]
  exact turn_of_empty h

/-- **A round prints all that waits, with what was thrown**, and nothing is left for the end. -/
theorem round_lines {s : Session} (hstage : s.stage = .waiting) :
    s.round.lines = s.lines ++ s.ring.waiting.flatMap s.eventLines ∧ s.round.ring.waiting = [] := by
  obtain ⟨stopping, hdraining⟩ : ∃ stopping, (s.turn .main).toProgram =
      { s.toProgram with stage := .draining stopping } := by
    refine ⟨s.interrupted, ?_⟩
    simp only [turn, Program.step, Program.goMain, hstage]
  have hdrained := (s.turn .main).drain_eq.trans
    (Program.run_draining _ rfl (congrArg Program.stage hdraining))
  rw [hdraining] at hdrained
  have hempty : (s.turn .main).drain.ring.waiting = [] := congrArg (·.ring.waiting) hdrained
  have hlines : (s.turn .main).drain.lines = s.lines ++ s.ring.waiting.flatMap s.eventLines :=
    congrArg Program.lines hdrained
  obtain ⟨hempty, hsame⟩ := goMain_of_empty hempty
  rw [← hlines, ← hsame]
  unfold round
  dsimp only
  split
  · obtain ⟨hnext, hnextLines⟩ := turn_of_empty hempty
    obtain ⟨hlast, hlastLines⟩ := drain_of_empty hnext
    exact ⟨hlastLines.trans hnextLines, hlast⟩
  · exact ⟨rfl, hempty⟩

end Session

end LogIntake.CommandLine
