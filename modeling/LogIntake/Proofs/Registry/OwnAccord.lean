import LogIntake.Proofs.Receiver.Delivery
import LogIntake.Proofs.Registry.Creation

/-!
# Links that end of their own accord

As long as nobody disconnects a service, closes the registry or is told that a service has gone, a link
goes out of force only when there is nothing more to expect of it.

* `Link.IsSpent`: the worker of a link has ended, or there will never be one.
* `Registry.Origin`: where a job that is to be done after an action comes from.
* **`Registry.Undisturbed.step`**: a link that is out of force remains spent.
* **`Registry.IsDeserted.step`**: a registry with no link in force, and no request, gets none.
-/

namespace LogIntake

/-- The worker of a link has ended, or there will never be one. -/
def Link.IsSpent (link : Link) : Prop :=
  (∃ reception, link.reception = some reception ∧ reception.worker.phase = .done) ∨
    link.reception = none ∧ link.negotiation.IsReported

theorem Link.IsSpent.done {link : Link} (h : link.IsSpent) {reception : Reception}
    (hreception : link.reception = some reception) : reception.worker.phase = .done := by
  obtain ⟨other, hother, hdone⟩ | ⟨hnone, -⟩ := h
  · rwa [Option.some_inj.mp (hreception.symm.trans hother)]
  · cases hnone.symm.trans hreception

/-- Whether a job may register a link. -/
def Job.enrols : Job → Bool
  | .check _ | .enroll _ | .refresh _ => true
  | _ => false

/-- Whether a job may take links out of force that have not ended, or stops one of them. -/
def Job.parts : Job → Bool
  | .detach _ | .release _ | .drain | .abandon _ => true
  | _ => false

/-! ## One link -/

section Links

variable {rules : RegistryRules} {n : Nat} {job : Job} {x x' : Standing} {jobs : List Job}

/-- A link that is out of force, or whose end is about to be told, is spent. -/
structure Dossier.EndsItself (rules : RegistryRules) (n : Nat) (x : Dossier) : Prop where
  upkeep : x.Upkeep rules n
  spent : x.standing.inForce = false → x.standing.link.IsSpent
  leaves : .leave n ∈ x.jobs → x.standing.link.IsSpent

theorem Does.isSpent (hdoes : Does rules n job x x' jobs) (hs : x.Sound rules)
    (h : x.link.IsSpent) : x'.link.IsSpent := by
  have not_settled : ∀ {result : NegotiationResult},
      x.link.negotiation.phase ≠ .settled result := by
    intro result hphase
    obtain ⟨reception, hreception, -⟩ | ⟨-, reported, hreported⟩ := h
    · cases (hs.reception_of_settled hphase).symm.trans hreception
    · cases hphase.symm.trans hreported
  cases hdoes with
  | negotiates =>
    refine h.imp_right fun ⟨hnone, reported, hreported⟩ => ⟨hnone, reported, ?_⟩
    exact Negotiation.step_phase_of_reported hreported _
  | refused hphase | late hphase | failed hphase | launched hphase => exact absurd hphase not_settled
  | departed | signalled =>
    obtain ⟨reception, hreception, hdone⟩ | ⟨hnone, hreported⟩ := h
    · exact .inl ⟨_, congrArg (Option.map _) hreception, hdone⟩
    · exact .inr ⟨congrArg (Option.map _) hnone, hreported⟩
  | _ => exact h

/-- **A link goes out of force when it is spent**, if that is what the job does. -/
theorem Does.isSpent_of_inForce (hdoes : Does rules n job x x' jobs) {beside : Multiset Job}
    (h : Dossier.EndsItself rules n ⟨x, job ::ₘ beside⟩) (hforce : x'.inForce = false) :
    x'.link.IsSpent := by
  by_cases hbefore : x.inForce = false
  · exact hdoes.isSpent h.upkeep.sound (h.spent hbefore)
  · cases hdoes with
    | refused hphase => exact .inr ⟨h.upkeep.sound.reception_of_settled hphase, _, rfl⟩
    | withdrawn =>
      obtain ⟨-, hnone, hreported⟩ := h.upkeep.tended.withdraws (Multiset.mem_cons_self _ _)
      exact .inr ⟨hnone, hreported⟩
    | left => exact h.leaves (Multiset.mem_cons_self _ _)
    | _ => exact absurd hforce hbefore

theorem Does.leave_before (hdoes : Does rules n job x x' jobs) (h : .leave n ∈ jobs) :
    job = .leave n := by
  cases hdoes with
  | waits => exact (List.mem_singleton.mp h).symm
  | negotiates _ hjobs => exact absurd (hjobs _ h) (by simp [Registry.negotiationJobs])
  | left => rfl
  | released => exact absurd h (Tended.notMem_endingJobs (by simp) _)
  | _ => simp at h

namespace Dossier.EndsItself

theorem fresh {x : Dossier} (h : x.IsFresh n) : x.EndsItself rules n := by
  obtain ⟨-, hforce, -, -, hjobs⟩ := id h
  exact ⟨.fresh h, by simp [hforce], by simp [hjobs]⟩

/-- **A link ends itself whatever happens to it**, unless somebody else takes it out of force. -/
theorem step {x x' : Dossier} (hstep : x.Step rules n x') (hrelease : .release n ∉ x'.jobs)
    (h : x.EndsItself rules n) : x'.EndsItself rules n := by
  have hupkeep := h.upkeep.step hstep
  cases hstep with
  | parted joins => exact absurd (by simp [partingJobs]) hrelease
  | answered => exact ⟨hupkeep, h.spent, h.leaves⟩
  | does hdoes =>
    refine ⟨hupkeep, hdoes.isSpent_of_inForce h, fun hleave => ?_⟩
    refine hdoes.isSpent h.upkeep.sound (h.leaves ?_)
    obtain hnew | hold := Multiset.mem_add.mp hleave
    · exact hdoes.leave_before hnew ▸ Multiset.mem_cons_self _ _
    · exact Multiset.mem_cons_of_mem hold
  | @fed x jobs reception worker settings input hreception hworker =>
    have hfed : x.link.IsSpent →
        Link.IsSpent { x.link with reception := some { reception with worker } } := by
      intro hspent
      have hdone : (reception.worker.step settings input).phase = .done :=
        Worker.step_done (hspent.done hreception) input
      exact .inl ⟨_, rfl, hworker ▸ hdone⟩
    refine ⟨hupkeep, fun hforce => hfed (h.spent hforce), fun hleave => ?_⟩
    obtain hnew | hold := Multiset.mem_add.mp hleave
    · by_cases hends : worker.phase = .done ∧ reception.worker.phase ≠ .done
      · exact .inl ⟨_, rfl, hends.1⟩
      · simp [hends] at hnew
    · exact hfed (h.leaves hold)

end Dossier.EndsItself

/-! ## Links at work -/

/-- A link in force has a worker. -/
def Dossier.Works (x : Dossier) : Prop :=
  x.standing.inForce = true ∧ x.standing.link.reception ≠ none

/-- **A link with a worker remains in force** until the worker's end is told or somebody else takes the
link out of force. -/
theorem Dossier.Works.step {x x' : Dossier} (hstep : x.Step rules n x') (hu : x.Upkeep rules n)
    (hrelease : .release n ∉ x'.jobs) (hdepart : .depart n ∉ x'.jobs) (h : x.Works) :
    x'.Works := by
  cases hstep with
  | parted joins => exact absurd (by simp [partingJobs]) hrelease
  | answered => exact h
  | fed => exact ⟨h.1, Option.some_ne_none _⟩
  | does hdoes =>
    cases hdoes with
    | left => exact absurd (by simp) hdepart
    | refused hphase => exact absurd (hu.sound.reception_of_settled hphase) h.2
    | withdrawn => exact absurd (hu.tended.withdraws (Multiset.mem_cons_self _ _)).2.1 h.2
    | launched => exact ⟨h.1, Option.some_ne_none _⟩
    | departed | signalled => exact ⟨h.1, by simpa using h.2⟩
    | _ => exact h

end Links

theorem Worker.pushed_step_done {settings : ReceiverSettings} {w : Worker} (h : w.phase = .done)
    (input : Input) : (w.step settings input).pushed = w.pushed := by
  cases input <;> simp [Worker.step, Worker.onTick, h]

/-! ## What jobs lead to -/

namespace Registry

variable {rules : RegistryRules} {r r' : Registry} {n number : Nat} {action : Action} {job j : Job}

/-- Only a request leads to a request. -/
theorem enrols_next (h : job.enrols = false) (hj : j ∈ (r.perform rules job).next) :
    j.enrols = false := by
  cases job <;>
    simp only [perform, whenFree, negotiateLink, launchLink, endingJobs, negotiationJobs] at hj
  all_goals repeat' split at hj
  all_goals simp_all [Job.enrols]
  all_goals grind [Job.enrols]

theorem parts_next (h : job.parts = false) (hj : j ∈ (r.perform rules job).next) :
    j.parts = false := by
  cases job <;>
    simp only [perform, whenFree, negotiateLink, launchLink, endingJobs, negotiationJobs] at hj
  all_goals repeat' split at hj
  all_goals simp_all [Job.parts]
  all_goals grind [Job.parts]

theorem depart_next (hj : .depart n ∈ (r.perform rules job).next) :
    job = .leave n := by
  cases job <;>
    simp only [perform, whenFree, negotiateLink, launchLink, endingJobs, negotiationJobs] at hj
  all_goals repeat' split at hj
  all_goals simp_all

/-- The only tasks that jobs spawn are those of negotiations. -/
theorem exists_of_mem_spawned (hj : j ∈ (r.perform rules job).spawned.flatten) :
    ∃ n, j ∈ negotiationJobs n := by
  cases job <;> simp only [perform, whenFree, negotiateLink, launchLink] at hj
  all_goals repeat' split at hj
  all_goals simp only [List.flatten_nil, List.flatten_singleton, List.not_mem_nil] at hj
  exact ⟨_, hj⟩

theorem entries_perform (h : r.entries = []) (henrols : job.enrols = false) :
    (r.perform rules job).registry.entries = [] := by
  cases job <;> simp only [perform, whenFree, negotiateLink, launchLink]
  all_goals repeat' split
  all_goals simp_all [setLink, setStage, dropLink, tell, make, Job.enrols]

/-! ## Where jobs come from -/

/-- The job that a task does in an action. -/
inductive Performs (r : Registry) : Action → Nat → Job → Prop
  | advance {number : Nat} {task : Task} {job : Job} {rest : List Job}
      (htask : r.tasks[number]? = some task) (hjobs : task.jobs = job :: rest) :
      Performs r (.advance number) number job
  | failWorker {number link : Nat} {reason : String} :
      Performs r (.failWorker number reason) number (.negotiate link (.start (.error reason)))

/-- Where a job comes from that a task has to do after an action. -/
inductive Origin (rules : RegistryRules) (r : Registry) (action : Action) (number : Nat) (j : Job) :
    Prop
  | old {task : Task} (htask : r.tasks[number]? = some task) (hj : j ∈ task.jobs)
  | next {job : Job} (hjob : r.Performs action number job) (hj : j ∈ (r.perform rules job).next)
  | spawned {n : Nat} (hj : j ∈ negotiationJobs n)
  | ended {n : Nat} (hj : j = .leave n)
  | called {call : Call} (hcall : action = .call call) (hnumber : number = r.tasks.length)
      (hj : j = call.job)

theorem origin_afterJob {task before : Task} {first : Job} {rest : List Job} {k : Nat}
    (htask : r.tasks[k]? = some before) (hjobs : before.jobs = first :: rest)
    (hperforms : r.Performs action k job)
    (hafter : (afterJob k rest (r.perform rules job)).tasks[number]? = some task)
    (hj : j ∈ task.jobs) : Origin rules r action number j := by
  have hlt : k < r.tasks.length := (List.getElem?_eq_some_iff.mp htask).1
  rw [afterJob, perform_tasks] at hafter
  rcases lt_or_ge number r.tasks.length with hold | hnew
  · rw [List.getElem?_append_left (by simpa using hold)] at hafter
    by_cases hk : k = number
    · subst hk
      rw [List.getElem?_set_self hlt] at hafter
      obtain rfl := Option.some_inj.mp hafter
      obtain hnext | hrest := List.mem_append.mp hj
      · exact .next hperforms hnext
      · exact .old htask (hjobs ▸ List.mem_cons_of_mem _ hrest)
    · rw [List.getElem?_set_ne hk] at hafter
      exact .old hafter hj
  · rw [List.getElem?_append_right (by simpa using hnew)] at hafter
    obtain ⟨jobs, hspawned, rfl⟩ := List.mem_map.mp (List.mem_of_getElem? hafter)
    obtain ⟨n, hmem⟩ := exists_of_mem_spawned (List.mem_flatten.mpr ⟨jobs, hspawned, hj⟩)
    exact .spawned hmem

/-- **Every job that a task has to do** has been to be done before, or comes of what is done. -/
theorem origin_step {task : Task} (hafter : (r.step rules action).tasks[number]? = some task)
    (hj : j ∈ task.jobs) : Origin rules r action number j := by
  cases action with
  | call call =>
    rcases lt_or_ge number r.tasks.length with hold | hnew
    · exact .old ((List.getElem?_append_left hold).symm.trans hafter) hj
    · have hget := (List.getElem?_append_right hnew).symm.trans hafter
      have hzero := (List.getElem?_eq_some_iff.mp hget).1
      rw [List.mem_singleton.mp (List.mem_of_getElem? hget)] at hj
      exact .called rfl (by simp at hzero; omega) (List.mem_singleton.mp hj)
  | advance k =>
    change (r.advance rules k).tasks[number]? = some task at hafter
    unfold advance at hafter
    split at hafter
    · next first rest hhead =>
      obtain ⟨before, htask, hjobs⟩ := Option.map_eq_some_iff.mp hhead
      exact origin_afterJob htask hjobs (.advance htask hjobs) hafter hj
    · exact .old hafter hj
  | failWorker k reason =>
    change (r.failWorker rules k reason).tasks[number]? = some task at hafter
    unfold failWorker at hafter
    split at hafter
    · next link worker rest hhead =>
      obtain ⟨before, htask, hjobs⟩ := Option.map_eq_some_iff.mp hhead
      exact origin_afterJob htask hjobs .failWorker hafter hj
    · exact .old hafter hj
  | answer k answer =>
    exact .old ((congrArg (·[number]?) (r.perform_tasks _)).symm.trans hafter) hj
  | source k input =>
    change (r.feedWorker rules k input).tasks[number]? = some task at hafter
    unfold feedWorker at hafter
    split at hafter
    · exact .old hafter hj
    · split at hafter
      · exact .old hafter hj
      · rcases lt_or_ge number r.tasks.length with hold | hnew
        · exact .old ((List.getElem?_append_left hold).symm.trans hafter) hj
        · have hget := (List.getElem?_append_right hnew).symm.trans hafter
          have hmem := List.mem_of_getElem? hget
          split at hmem
          · rw [List.mem_singleton.mp hmem] at hj
            exact .ended (List.mem_singleton.mp hj)
          · cases hmem

/-- Something holds of all jobs that are to be done, apart from those of one task. -/
def Holds (r : Registry) (P : Job → Prop) (apart : Option Nat) : Prop :=
  ∀ number task, r.tasks[number]? = some task → apart ≠ some number → ∀ job ∈ task.jobs, P job

theorem Holds.mem_jobs {P : Job → Prop} (h : r.Holds P none) (hjob : job ∈ r.jobs) : P job := by
  obtain ⟨task, htask, hjob⟩ := List.mem_flatMap.mp hjob
  obtain ⟨number, hnumber⟩ := List.mem_iff_getElem?.mp htask
  exact h number task hnumber nofun job hjob

/-- **What holds of all jobs, of those they lead to and of those of a negotiation, goes on to hold.** -/
theorem Holds.step {P : Job → Prop} {apart : Option Nat} (h : r.Holds P apart)
    (hcall : ∀ call, action ≠ .call call) (hleave : ∀ n, P (.leave n))
    (hspawned : ∀ n, ∀ job ∈ negotiationJobs n, P job)
    (hstart : ∀ n reason, P (.negotiate n (.start (.error reason))))
    (hnext : ∀ job, P job → ∀ j ∈ (r.perform rules job).next, P j) :
    (r.step rules action).Holds P apart := by
  intro number task htask hapart j hj
  cases origin_step htask hj with
  | old hbefore hj => exact h number _ hbefore hapart j hj
  | ended hj => exact hj ▸ hleave _
  | spawned hj => exact hspawned _ j hj
  | called hcalled => exact absurd hcalled (hcall _)
  | next hperforms hj =>
    cases hperforms with
    | failWorker => exact hnext _ (hstart _ _) j hj
    | advance hbefore hjobs =>
      exact hnext _ (h number _ hbefore hapart _ (hjobs ▸ List.mem_cons_self)) j hj

/-! ## Registries that are left alone -/

/-- All links of a registry end of their own accord. -/
structure Undisturbed (rules : RegistryRules) (r : Registry) : Prop where
  roster : r.Roster
  agenda : r.Agenda
  ends : ∀ n x, r.dossier? n = some x → x.EndsItself rules n

/-- A link of a registry is in force and has a worker. -/
def Works (r : Registry) (n : Nat) : Prop := ∃ x, r.dossier? n = some x ∧ x.Works

theorem undisturbed_empty : Undisturbed rules {} :=
  ⟨roster_empty, agenda_empty, fun n x hx => by simp [dossier?] at hx⟩

theorem Undisturbed.step (h : r.Undisturbed rules)
    (hrelease : ∀ n, .release n ∉ (r.step rules action).jobs) :
    (r.step rules action).Undisturbed rules := by
  have hproceeds : Proceeds rules r (r.step rules action) := proceeds_step h.roster h.agenda action
  refine ⟨hproceeds.roster, hproceeds.agenda, fun n x' hx' => ?_⟩
  obtain ⟨x, hx, rfl | hstep⟩ | ⟨-, hfresh⟩ := hproceeds.dossiers n x' hx'
  · exact h.ends n _ hx
  · exact (h.ends n x hx).step hstep fun hmem => hrelease n (mem_of_dossier? hx' hmem)
  · exact .fresh hfresh

/-- The end of a worker is near only if it has been told. -/
theorem depart_step (hdepart : .depart n ∈ (r.step rules action).jobs) :
    .depart n ∈ r.jobs ∨ ∃ number, r.Performs action number (.leave n) := by
  obtain ⟨task, htask, hmem⟩ := List.mem_flatMap.mp hdepart
  obtain ⟨number, hnumber⟩ := List.mem_iff_getElem?.mp htask
  cases origin_step hnumber hmem with
  | old hbefore hj => exact .inl (mem_jobs hbefore hj)
  | next hperforms hj => exact .inr ⟨number, depart_next hj ▸ hperforms⟩
  | spawned hj => simp [negotiationJobs] at hj
  | ended hj => cases hj
  | @called call _ _ hj => cases call <;> cases hj

/-- **A link remains at work until its worker has ended.** -/
theorem Works.step (h : r.Undisturbed rules)
    (hrelease : ∀ n, .release n ∉ (r.step rules action).jobs)
    (hleave : ∀ number, ¬ r.Performs action number (.leave n))
    (hworks : r.Works n) : (r.step rules action).Works n := by
  have hproceeds : Proceeds rules r (r.step rules action) := proceeds_step h.roster h.agenda action
  obtain ⟨x, hx, hworks⟩ := hworks
  have hupkeep := (h.ends n x hx).upkeep
  obtain ⟨x', hx', rfl | hstep⟩ := hproceeds.next hx
  · exact ⟨_, hx', hworks⟩
  · refine ⟨x', hx', hworks.step hstep hupkeep (fun hmem => ?_) fun hmem => ?_⟩
    · exact hrelease n (mem_of_dossier? hx' hmem)
    · obtain hold | ⟨number, hperforms⟩ := depart_step (mem_of_dossier? hx' hmem)
      · have hforce := (hupkeep.tended.departs (mem_dossier?_jobs hx rfl hold)).1
        cases hworks.1.symm.trans hforce
      · exact hleave number hperforms

/-- **A worker pushes nothing more when its link is out of force.** -/
theorem Undisturbed.works_of_pushes (h : r.Undisturbed rules) {input : Input}
    (hpushes : (r.step rules (.source n input)).sink.drop r.sink.length ≠ []) : r.Works n := by
  change (r.feedWorker rules n input).sink.drop r.sink.length ≠ [] at hpushes
  unfold feedWorker at hpushes
  split at hpushes
  · simp at hpushes
  next link hlink =>
  split at hpushes
  · simp at hpushes
  next reception hreception =>
  rw [List.drop_left] at hpushes
  refine ⟨_, dossier?_eq hlink, ?_, by simp [standing, hreception]⟩
  by_contra hforce
  have hdone := ((h.ends n _ (dossier?_eq hlink)).spent (by simpa using hforce)).done hreception
  rw [Worker.pushed_step_done hdone, List.drop_length] at hpushes
  exact hpushes rfl

/-- No link is in force, and nobody asks for one. -/
structure IsDeserted (r : Registry) : Prop where
  entries : r.entries = []
  jobs : r.Holds (fun job => job.enrols = false ∧ (job.parts = true → job = .drain)) none

theorem IsDeserted.not_works (h : r.IsDeserted) : ¬ r.Works n := by
  rintro ⟨x, hx, hforce, -⟩
  obtain ⟨link, -, rfl⟩ := Option.map_eq_some_iff.mp hx
  simp [standing, isCurrent, h.entries] at hforce

theorem IsDeserted.entries_step (h : r.IsDeserted) (action : Action) :
    (r.step rules action).entries = [] := by
  cases action with
  | call call => exact h.entries
  | advance number =>
    change (r.advance rules number).entries = []
    unfold advance
    split
    · next job rest hhead =>
      obtain ⟨task, htask, hjobs⟩ := Option.map_eq_some_iff.mp hhead
      have hjob := h.jobs number task htask nofun job (hjobs ▸ List.mem_cons_self)
      exact entries_perform h.entries hjob.1
    · exact h.entries
  | failWorker number reason =>
    change (r.failWorker rules number reason).entries = []
    unfold failWorker
    split
    · exact entries_perform h.entries rfl
    · exact h.entries
  | answer k answer => exact entries_perform h.entries rfl
  | source k input =>
    change (r.feedWorker rules k input).entries = []
    unfold feedWorker
    repeat' split
    all_goals exact h.entries

theorem IsDeserted.step (h : r.IsDeserted) (hcall : ∀ call, action ≠ .call call) :
    (r.step rules action).IsDeserted := by
  refine ⟨h.entries_step action, h.jobs.step hcall (by simp [Job.enrols, Job.parts]) ?_
    (by simp [Job.enrols, Job.parts]) fun job ⟨henrols, hparts⟩ j hj => ?_⟩
  · simp [negotiationJobs, Job.enrols, Job.parts]
  · refine ⟨enrols_next henrols hj, fun hj' => ?_⟩
    by_cases hjob : job.parts = true
    · rw [hparts hjob, perform, h.entries] at hj
      cases hj
    · simp [parts_next (by simpa using hjob) hj] at hj'

end Registry

end LogIntake
