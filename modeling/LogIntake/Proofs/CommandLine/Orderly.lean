import LogIntake.CommandLine.Program
import LogIntake.Proofs.Registry.OwnAccord

/-!
# Programs that are not interrupted

* `Stage.Fits`: what is to be done in the registry at each stage of the main thread.
* `Program.Orderly`: what holds of a program that looks for no services and is not interrupted.
* **`Program.Orderly.step`**: kept by every turn; `Program.Orderly.run`.
-/

namespace LogIntake

namespace Registry

variable {rules : RegistryRules} {r : Registry} {P : Job → Prop} {apart : Option Nat} {number : Nat}

/-- One task apart, nothing of a kind is to be done, and this task has nothing to do. -/
theorem Holds.of_finished {failure : Option ConnectError} (h : r.Holds P (some number))
    (htask : r.tasks[number]? = some ⟨[], failure⟩) : r.Holds P none := by
  intro other task hother _ job hjob
  by_cases hsame : number = other
  · subst hsame
    obtain rfl := Option.some_inj.mp (htask.symm.trans hother)
    cases hjob
  · exact h other task hother (by simpa using hsame) job hjob

/-- The task of a call is apart from the others. -/
theorem Holds.call (h : r.Holds P none) (rules : RegistryRules) (call : Call) :
    (r.step rules (.call call)).Holds P (some r.tasks.length) := by
  intro other task hother hapart job hjob
  rcases lt_or_ge other r.tasks.length with hold | hnew
  · exact h other task ((List.getElem?_append_left hold).symm.trans hother) nofun job hjob
  · have hget := (List.getElem?_append_right hnew).symm.trans hother
    have hlast := (List.getElem?_eq_some_iff.mp hget).1
    exact absurd (congrArg some (by simp at hlast; omega)) hapart

theorem Holds.call_of_job (h : r.Holds P none) {call : Call} (hcall : P call.job) :
    (r.step rules (.call call)).Holds P none := by
  intro other task hother _ job hjob
  by_cases hsame : r.tasks.length = other
  · subst hsame
    have hget : (r.step rules (.call call)).tasks[r.tasks.length]? = some ⟨[call.job], none⟩ :=
      List.getElem?_concat_length
    obtain rfl := Option.some_inj.mp (hget.symm.trans hother)
    rwa [List.mem_singleton.mp hjob]
  · exact h.call rules call other task hother (by simpa using hsame) job hjob

/-- Nobody takes a link out of force that has not ended. -/
def IsLeftAlone (r : Registry) : Prop := r.Holds (·.parts = false) none

theorem IsLeftAlone.step (h : r.IsLeftAlone) {action : Action}
    (hcall : ∀ call, action ≠ .call call) : (r.step rules action).IsLeftAlone :=
  Holds.step h hcall (fun _ => rfl) (by simp [negotiationJobs, Job.parts]) (fun _ _ => rfl)
    fun _ hjob _ hj => parts_next hjob hj

theorem IsLeftAlone.release_notMem (h : r.IsLeftAlone) (n : Nat) : .release n ∉ r.jobs :=
  fun hmem => by cases h.mem_jobs hmem

theorem IsDeserted.release_notMem (h : r.IsDeserted) (n : Nat) : .release n ∉ r.jobs :=
  fun hmem => by cases (h.jobs.mem_jobs hmem).2 rfl

theorem Holds.enrols_step (h : r.Holds (·.enrols = false) apart) {action : Action}
    (hcall : ∀ call, action ≠ .call call) :
    (r.step rules action).Holds (·.enrols = false) apart :=
  Holds.step h hcall (fun _ => rfl) (by simp [negotiationJobs, Job.enrols]) (fun _ _ => rfl)
    fun _ hjob _ hj => enrols_next hjob hj

end Registry

namespace CommandLine

/-- The main thread has begun to close the registry. -/
def Stage.isLate : Stage → Bool
  | .closing _ | .emptying | .ended => true
  | _ => false

/-- The main thread has been asked to stop. -/
def Stage.stops : Stage → Bool
  | .draining stopping | .checking stopping => stopping
  | _ => false

/-- The task that may register a link. -/
def Stage.task? : Stage → Option Nat
  | .registering task _ _ => some task
  | _ => none

theorem Stage.eq_ended {stage : Stage} (h : (stage matches .ended) = true) : stage = .ended := by
  cases stage <;> first | rfl | cases h

namespace Program

/-- What holds of a program that looks for no services and is not interrupted before its end. -/
structure Orderly (p : Program) : Prop where
  hears : p.hears = false
  undisturbed : p.registry.Undisturbed p.rules
  /-- A worker that has something to push is known to the registry. -/
  works : ∀ entry ∈ p.handed, p.registry.Works entry.1
  goesOn : p.stage.isLate = false → p.interrupted = false ∧ p.stage.stops = false
  early : p.stage.isLate = false →
    p.registry.IsLeftAlone ∧ p.registry.Holds (·.enrols = false) p.stage.task?
  late : p.stage.isLate = true → p.registry.IsDeserted
  ended : p.stage = .ended → p.ring.waiting = []

variable {p : Program}

namespace Orderly

/-- **Once the registry is closed no worker has anything to push.** -/
theorem handed_of_isLate (h : p.Orderly) (hlate : p.stage.isLate = true) : p.handed = [] := by
  rw [List.eq_nil_iff_forall_not_mem]
  exact fun entry hentry => (h.late hlate).not_works (h.works entry hentry)

theorem release_notMem (h : p.Orderly) {action : Registry.Action}
    (hcall : ∀ call, action ≠ .call call) (n : Nat) :
    .release n ∉ (p.registry.step p.rules action).jobs := by
  cases hlate : p.stage.isLate with
  | false => exact ((h.early hlate).1.step hcall).release_notMem n
  | true => exact ((h.late hlate).step hcall).release_notMem n

/-- **Something happens in the registry**, and a worker does not end while it has something to push. -/
theorem act (h : p.Orderly) {action : Registry.Action} (hcall : ∀ call, action ≠ .call call)
    (hleave : ∀ number n, p.registry.Performs action number (.leave n) → p.isPushing n = false) :
    Orderly { p with registry := p.registry.step p.rules action } := by
  have hrelease := h.release_notMem hcall
  refine ⟨h.hears, h.undisturbed.step hrelease, fun entry hentry => ?_, h.goesOn, fun hearly => ?_,
    fun hlate => (h.late hlate).step hcall, h.ended⟩
  · refine (h.works entry hentry).step h.undisturbed hrelease fun number hperforms => ?_
    have hnot := hleave number entry.1 hperforms
    simp only [isPushing, List.any_eq_false] at hnot
    exact hnot entry hentry (by simp)
  · exact ⟨(h.early hearly).1.step hcall, (h.early hearly).2.enrols_step hcall⟩

/-- The main thread calls the registry to connect a file. -/
theorem connect (h : p.Orderly) (hlate : p.stage.isLate = false) (hnone : p.stage.task? = none)
    (request : Request) (complaint : String) (rest : List Opening) :
    (p.call (.connect request) (.registering p.registry.tasks.length complaint rest)).Orderly := by
  obtain ⟨halone, henrols⟩ := h.early hlate
  rw [hnone] at henrols
  have halone' : (p.registry.step p.rules (.call (.connect request))).IsLeftAlone :=
    Registry.Holds.call_of_job halone rfl
  refine ⟨h.hears, h.undisturbed.step halone'.release_notMem, fun entry hentry => ?_,
    fun _ => ⟨(h.goesOn hlate).1, rfl⟩, fun _ => ⟨halone', henrols.call p.rules _⟩, nofun, nofun⟩
  exact (h.works entry hentry).step h.undisturbed halone'.release_notMem nofun

/-- The main thread closes a registry in which no link is in force. -/
theorem shutdown (h : p.Orderly) (hlate : p.stage.isLate = false) (hnone : p.stage.task? = none)
    (hentries : p.registry.entries = []) (task : Nat) : (p.call .shutdown (.closing task)).Orderly := by
  obtain ⟨halone, henrols⟩ := h.early hlate
  rw [hnone] at henrols
  have hdeserted : (p.registry.step p.rules (.call .shutdown)).IsDeserted := by
    refine ⟨hentries, Registry.Holds.call_of_job (fun number task htask hapart job hjob => ?_)
      ⟨rfl, fun _ => rfl⟩⟩
    refine ⟨henrols number task htask hapart job hjob, fun hparts => ?_⟩
    cases (halone number task htask hapart job hjob).symm.trans hparts
  refine ⟨h.hears, h.undisturbed.step hdeserted.release_notMem, fun entry hentry => ?_, nofun, nofun,
    fun _ => hdeserted, nofun⟩
  exact (h.works entry hentry).step h.undisturbed hdeserted.release_notMem nofun

/-- What holds at a stage before the end. -/
theorem atStage (h : p.Orderly) {stage : Stage} (hstage : p.stage = stage)
    (hlate : stage.isLate = false) : p.stage.isLate = false ∧ p.interrupted = false ∧
      stage.stops = false ∧ p.registry.Holds (·.enrols = false) stage.task? := by
  subst hstage
  exact ⟨hlate, (h.goesOn hlate).1, (h.goesOn hlate).2, (h.early hlate).2⟩

/-- The main thread goes on to another stage before the end. -/
theorem goOn (h : p.Orderly) (hlate : p.stage.isLate = false) {stage : Stage}
    (hstage : stage.isLate = false) (hstops : stage.stops = false)
    (henrols : p.registry.Holds (·.enrols = false) stage.task?) : Orderly { p with stage } := by
  have hnot : ∀ {P : Prop}, stage.isLate = true → P := fun h => by cases hstage.symm.trans h
  refine ⟨h.hears, h.undisturbed, h.works, fun _ => ⟨(h.goesOn hlate).1, hstops⟩,
    fun _ => ⟨(h.early hlate).1, henrols⟩, hnot, fun hended => hnot ?_⟩
  rw [show stage = .ended from hended]
  rfl

/-- The main thread goes on to another stage of the end. -/
theorem goLate (h : p.Orderly) (hlate : p.stage.isLate = true) {stage : Stage}
    (hstage : stage.isLate = true) (hended : stage = .ended → p.ring.waiting = []) :
    Orderly { p with stage } := by
  have hnot : ∀ {P : Prop}, stage.isLate = false → P := fun h => by cases hstage.symm.trans h
  exact ⟨h.hears, h.undisturbed, h.works, hnot, hnot, fun _ => h.late hlate, hended⟩

theorem drain (h : p.Orderly) (shown : Event → List String) {next : Stage}
    (hstage : p.stage ≠ .ended) (hnext : p.ring.waiting = [] → Orderly { p with stage := next }) :
    (p.drain shown next).Orderly := by
  unfold Program.drain RingSink.pop
  cases hwaiting : p.ring.waiting with
  | nil => exact hnext hwaiting
  | cons e rest =>
    exact ⟨h.hears, h.undisturbed, h.works, h.goesOn, h.early, h.late,
      fun hended => absurd hended hstage⟩

/-- **The main thread goes on.** -/
theorem goMain (h : p.Orderly) : p.goMain.Orderly := by
  unfold Program.goMain
  split
  next hstage =>
    obtain ⟨hlate, -, -, henrols⟩ := h.atStage hstage rfl
    split <;> exact h.goOn hlate rfl rfl henrols
  next name connection complaint rest hstage =>
    exact h.connect (by rw [hstage]; rfl) (by rw [hstage]; rfl) _ complaint rest
  next task complaint rest hstage =>
    obtain ⟨hlate, -, -, henrols⟩ := h.atStage hstage rfl
    split
    · next htask => exact h.goOn hlate rfl rfl (henrols.of_finished htask)
    · next htask => exact h.goOn hlate rfl rfl (henrols.of_finished htask)
    · exact h
  next hstage =>
    obtain ⟨hlate, hinterrupted, -, henrols⟩ := h.atStage hstage rfl
    exact h.goOn hlate rfl hinterrupted henrols
  next stopping hstage =>
    obtain ⟨hlate, -, hstops, henrols⟩ := h.atStage hstage rfl
    exact h.drain _ (by simp [hstage]) fun _ => h.goOn hlate rfl hstops henrols
  next stopping hstage =>
    obtain ⟨hlate, -, hstops, henrols⟩ := h.atStage hstage rfl
    obtain rfl : stopping = false := hstops
    split
    · next hempty =>
      simp only [Bool.false_or, Bool.and_eq_true, List.isEmpty_iff] at hempty
      exact h.shutdown hlate (by rw [hstage]; rfl) hempty.2 _
    · exact h.goOn hlate rfl rfl henrols
  next task hstage =>
    split
    · exact h.goLate (by rw [hstage]; rfl) rfl nofun
    · exact h
  next hstage =>
    exact h.drain _ (by simp [hstage]) fun hwaiting =>
      h.goLate (by rw [hstage]; rfl) rfl fun _ => hwaiting
  all_goals exact h

/-- The worker of a link goes on, and hands out events only if the registry knows of it. -/
theorem work (h : p.Orderly) (link : Nat) (input : Input) : (p.step (.work link input)).Orderly := by
  rw [Program.step]
  split
  · exact h
  · have hact : Orderly { p with registry := p.registry.step p.rules (.source link input) } :=
      h.act nofun nofun
    refine ⟨hact.hears, hact.undisturbed, fun entry hentry => ?_, hact.goesOn, hact.early, hact.late,
      hact.ended⟩
    obtain hold | hnew := List.mem_append.mp hentry
    · exact hact.works entry hold
    · obtain ⟨e, he, rfl⟩ := List.mem_map.mp hnew
      have hworks := h.undisturbed.works_of_pushes (List.ne_nil_of_mem he)
      exact hworks.step h.undisturbed (h.release_notMem nofun) nofun

/-- **Every turn keeps the program in order**, unless it is interrupted before its end. -/
theorem step (h : p.Orderly) {turn : Turn} (hturn : p.stage.isLate = false → turn ≠ .interrupt) :
    (p.step turn).Orderly := by
  cases turn with
  | main => exact h.goMain
  | interrupt =>
    exact ⟨h.hears, h.undisturbed, h.works, fun hearly => absurd rfl (hturn hearly), h.early, h.late,
      h.ended⟩
  | found service =>
    rw [Program.step, h.hears]
    exact h
  | gone key =>
    rw [Program.step, h.hears]
    exact h
  | advance task =>
    rw [Program.step]
    split
    · exact h
    · next hfree =>
      refine h.act nofun fun number n hperforms => ?_
      cases hperforms with
      | advance htask hjobs => simpa [leaver?, htask, hjobs] using hfree
  | failWorker task reason => exact h.act nofun nofun
  | answer link answer => exact h.act nofun nofun
  | work link input => exact h.work link input
  | push link =>
    rw [Program.step]
    split
    · exact h
    · next n e hfind =>
      refine ⟨h.hears, h.undisturbed, fun entry hentry => ?_, h.goesOn, h.early, h.late,
        fun hended => ?_⟩
      · exact h.works entry (List.mem_of_mem_eraseP hentry)
      · have hnone := h.handed_of_isLate (by rw [show p.stage = .ended from hended]; rfl)
        simp [hnone] at hfind

theorem run (h : p.Orderly) {turns : List Turn} (hturns : .interrupt ∉ turns) :
    (p.run turns).Orderly := by
  induction turns generalizing p with
  | nil => exact h
  | cons turn turns ih =>
    rw [List.mem_cons, not_or] at hturns
    exact ih (h.step fun _ => Ne.symm hturns.1) hturns.2

/-- **A program that is to read everything once** begins in order. -/
theorem begin {arguments : Arguments} (once : arguments.once = true) (settings : Settings)
    (surroundings : Surroundings) (discovery : Except String Unit) :
    (Program.begin arguments settings surroundings discovery).Orderly := by
  generalize hp : Program.begin arguments settings surroundings discovery = p
  have hstage : p.stage = .connecting (openings arguments settings) := hp ▸ rfl
  have hregistry : p.registry = {} := hp ▸ rfl
  constructor
  case hears =>
    rw [← hp]
    simp [Program.begin, discovers, once, Program.hears]
  case undisturbed =>
    rw [hregistry]
    exact Registry.undisturbed_empty
  case works =>
    intro entry hentry
    rw [← hp] at hentry
    cases hentry
  case goesOn =>
    intro _
    rw [hstage]
    exact ⟨hp ▸ rfl, rfl⟩
  case early =>
    intro _
    rw [hregistry]
    constructor <;> intro number task htask <;> cases htask
  case late => simp [hstage, Stage.isLate]
  case ended => simp [hstage]

end Orderly

end Program

end CommandLine

end LogIntake
