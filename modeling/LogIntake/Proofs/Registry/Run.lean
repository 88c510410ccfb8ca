import LogIntake.Proofs.Registry.Parting
import Mathlib.Data.List.Induction

/-!
# Every run of a registry

* **`Registry.proceeds_step`**: every action registers a link, does to each link what can be done to
  it, or leaves it as it is.
* `Registry.run_preserves`: what is kept by all that can happen to a link holds of it for ever.
* **`Registry.dossier_induction`**: what holds of a link that has been registered, and is kept by all
  that can happen to it, holds of every link in every run.
-/

namespace LogIntake

/-- A link that is prepared for a request is new. -/
theorem Request.prepare_isNew {request : Request} {link : Link} (h : request.prepare = .ok link) :
    link.IsNew := by
  simp only [Request.prepare, bind, Except.bind, pure, Except.pure] at h
  repeat' split at h
  all_goals cases h <;> exact ⟨rfl, rfl, rfl⟩

/-- The outcome of a job that changes no link and leaves nothing to do about any. -/
structure Outcome.Idles (r : Registry) (o : Outcome) : Prop where
  roster : o.registry.Roster
  links : o.registry.links = r.links
  tasks : o.registry.tasks = r.tasks
  standing : ∀ n link, o.registry.standing n link = r.standing n link
  spawned : o.spawned = []
  next : ∀ job ∈ o.next, job.link? = none ∧ job.IsUsual ∧ job.event? = none

namespace Registry

variable {rules : RegistryRules} {r r' : Registry} {k n number : Nat} {link link' : Link} {task : Task}
  {job : Job} {rest : List Job} {o : Outcome}

/-! ## Jobs about no link -/

/-- A job that changes nothing. -/
theorem idles_self (hr : r.Roster) {next : List Job} {failure : Option ConnectError}
    (hnext : ∀ job ∈ next, job.link? = none ∧ job.IsUsual ∧ job.event? = none) :
    Outcome.Idles r { registry := r, next, failure } :=
  ⟨hr, rfl, rfl, fun _ _ => rfl, rfl, hnext⟩

theorem proceeds_idles (ha : r.Agenda) (htask : r.tasks[number]? = some task)
    (hjobs : task.jobs = job :: rest) (hjob : job.link? = none) (hstops : job.stops? = none)
    (ho : o.Idles r) : Proceeds rules r (afterJob number rest o) := by
  have hstopped : o.registry.IsStopped = r.IsStopped := isStopped_of_links ho.links
  have hfirst : StopsFirst r.IsStopped (job :: rest) := ha.stopsFirst_next htask hjobs
  have hnew : ∀ job ∈ o.next ++ o.spawned.flatten,
      job.link? = none ∧ job.IsUsual ∧ job.event? = none := by
    rw [ho.spawned, List.flatten_nil, List.append_nil]
    exact ho.next
  refine ⟨ho.roster.of_sublist rfl (.refl _) rfl rfl, ?_, ho.links.symm ▸ le_rfl,
    fun n x' hx' => .inl ⟨x', ?_, .inl rfl⟩⟩
  · refine ha.afterJob htask hjobs ho.tasks (by rw [ho.links]) (by simp [hstopped])
      (fun job hmem n hn => ?_) (fun job hmem => (hnew job hmem).2.1) ?_ (by simp [ho.spawned])
    · rw [(hnew job hmem).1] at hn
      cases hn
    · rw [hstopped]
      have hnext : StopsFirst r.IsStopped o.next := .of_forall fun job hmem event hevent => by
        rw [(ho.next job hmem).2.2] at hevent
        cases hevent
      exact hnext.append (hfirst.2.mono fun m hm => by simpa [hstops] using hm)
  · obtain ⟨beside, -, hbefore, hafter⟩ := dossier?_afterJob htask hjobs ho.tasks n
    have hnone : (o.next ++ o.spawned.flatten).filter (·.link? = some n) = [] :=
      List.filter_eq_nil_iff.mpr fun job hmem => by simp [(hnew job hmem).1]
    have hself : [job].filter (·.link? = some n) = [] := by simp [hjob]
    rw [hself] at hbefore
    rw [hnone, ho.links] at hafter
    simp only [ho.standing] at hafter
    rw [hbefore, ← hafter, hx']

/-- A service that is known already is only refreshed. -/
theorem idles_refresh (hr : r.Roster) (service : Service) :
    Outcome.Idles r
      { registry :=
          { r with
            entries := r.entries.map fun entry =>
              if entry.key = service.key then { entry with service } else entry } } := by
  have hkey : ∀ entry : Entry,
      (if entry.key = service.key then { entry with service } else entry).key = entry.key := by
    intro entry
    split
    · next h => exact h.symm
    · rfl
  have hlink : ∀ entry : Entry,
      (if entry.key = service.key then { entry with service } else entry).link = entry.link := by
    intro entry
    split <;> rfl
  refine ⟨⟨?_, fun entry hentry => ?_, hr.made, hr.told⟩, rfl, rfl, fun n link => ?_, rfl, by simp⟩
  · rw [List.pairwise_map]
    simpa only [hkey] using hr.distinct
  · obtain ⟨entry, hold, rfl⟩ := List.mem_map.mp hentry
    simpa only [hkey, hlink] using hr.keyed entry hold
  · simp only [standing, madeFor, toldOf, isCurrent, List.any_map, Function.comp_def, hlink]

/-! ## New links -/

theorem isCurrent_addLink (hn : n ≠ r.links.length) : (r.addLink link).isCurrent n = r.isCurrent n := by
  rw [Bool.eq_iff_iff, isCurrent_iff, isCurrent_iff]
  have hmem : ∀ entry, entry ∈ (r.addLink link).entries ↔
      entry = ⟨link.service, r.links.length⟩ ∨ entry ∈ r.entries := fun entry => by
    rw [addLink, (insert_perm _ _).mem_iff, List.mem_cons]
  constructor
  · rintro ⟨entry, hentry, hlink⟩
    obtain rfl | hold := (hmem entry).mp hentry
    · exact absurd hlink.symm hn
    · exact ⟨entry, hold, hlink⟩
  · rintro ⟨entry, hentry, hlink⟩
    exact ⟨entry, (hmem entry).mpr (.inr hentry), hlink⟩

theorem Roster.addLink (hr : r.Roster) (hfree : ¬ r.isConnected link.service.key = true) :
    (r.addLink link).Roster where
  distinct := by
    rw [Registry.addLink, (insert_perm _ _).pairwise_iff fun h => Ne.symm h]
    exact hr.distinct.cons fun entry hentry => (not_isConnected hfree entry hentry).symm
  keyed entry hentry := by
    rw [Registry.addLink, (insert_perm _ _).mem_iff, List.mem_cons] at hentry
    obtain rfl | hold := hentry
    · exact ⟨link, by simp [Registry.addLink], rfl⟩
    · obtain ⟨link', hlink', hkey⟩ := hr.keyed entry hold
      have hlt := (List.getElem?_eq_some_iff.mp hlink').1
      exact ⟨link', by rw [Registry.addLink, List.getElem?_append_left hlt, hlink'], hkey⟩
  made creation hcreation := by
    have hlt := hr.made creation hcreation
    rw [Registry.addLink, List.length_append]
    exact Nat.lt_add_right _ hlt
  told event hevent := by
    have hlt := hr.told event hevent
    rw [Registry.addLink, List.length_append]
    exact Nat.lt_add_right _ hlt

theorem isStopped_addLink (h : r.IsStopped n) : (r.addLink link).IsStopped n := by
  obtain ⟨link', hlink', hstage⟩ := h
  have hlt := (List.getElem?_eq_some_iff.mp hlink').1
  exact ⟨link', by rw [addLink, List.getElem?_append_left hlt, hlink'], hstage⟩

theorem links_addLink (hn : n ≠ r.links.length) : (r.addLink link).links[n]? = r.links[n]? := by
  rcases lt_or_gt_of_ne hn with hlt | hgt
  · exact List.getElem?_append_left hlt
  · have hlong : (r.addLink link).links.length ≤ n := by
      simp only [addLink, List.length_append, List.length_singleton]
      omega
    rw [List.getElem?_eq_none hlong, List.getElem?_eq_none hgt.le]

/-- What is left to do when a link has been registered. -/
def enrolled (r : Registry) (link : Link) : Outcome where
  registry := r.addLink link
  next := [.negotiate r.links.length (.start (.ok ())), .keep r.links.length]

theorem Agenda.enrolled (ha : r.Agenda) (htask : r.tasks[number]? = some task)
    (hjobs : task.jobs = .enroll link :: rest) :
    (Registry.afterJob number rest (r.enrolled link)).Agenda := by
  have hfirst : StopsFirst r.IsStopped (.enroll link :: rest) := ha.stopsFirst_next htask hjobs
  have hlength : (r.addLink link).links.length = r.links.length + 1 := by simp [Registry.addLink]
  have hnext : ∀ job ∈ (r.enrolled link).next ++ (r.enrolled link).spawned.flatten,
      job.link? = some r.links.length ∧ job.IsUsual := by
    intro job hmem
    simp only [Registry.enrolled, List.flatten_nil, List.append_nil, List.mem_cons,
      List.not_mem_nil, or_false] at hmem
    obtain rfl | rfl := hmem <;> exact ⟨rfl, trivial⟩
  refine ha.afterJob htask hjobs rfl (by show _ ≤ (r.addLink link).links.length; omega)
    (fun _ => isStopped_addLink) (fun job hmem n hn => ?_) (fun job hmem => (hnext job hmem).2) ?_
    (by simp [Registry.enrolled])
  · have hn : r.links.length = n := Option.some_inj.mp ((hnext job hmem).1.symm.trans hn)
    show n < (r.addLink link).links.length
    omega
  · refine ⟨by simp [Job.event?], by simp [Job.event?], hfirst.2.mono fun m hm => ?_⟩
    exact .inr (.inr (hm.elim (fun h => by cases h) isStopped_addLink))

/-- **A new link is in force and about to negotiate.** All others stay as they are. -/
theorem dossiers_enrolled (hr : r.Roster) (ha : r.Agenda) (htask : r.tasks[number]? = some task)
    (hjobs : task.jobs = .enroll link :: rest) (hnew : link.IsNew) {x' : Dossier}
    (hx' : (afterJob number rest (r.enrolled link)).dossier? n = some x') :
    r.dossier? n = some x' ∨ r.dossier? n = none ∧ x'.IsFresh n := by
  obtain ⟨beside, hbeside, hbefore, hafter⟩ :=
    dossier?_afterJob htask hjobs (o := r.enrolled link) rfl n
  rw [hx'] at hafter
  by_cases hn : n = r.links.length
  · subst hn
    have hnone : beside = 0 := Multiset.eq_zero_of_forall_notMem fun job hmem =>
      absurd (ha.known job (hbeside job hmem).1 _ (hbeside job hmem).2) (lt_irrefl _)
    have hget : (r.addLink link).links[r.links.length]? = some link := by simp [addLink]
    rw [enrolled, hget, hnone] at hafter
    obtain rfl := Option.some_inj.mp hafter
    refine .inr ⟨by simp [dossier?], hnew, ?_, ?_, ?_, by simp [Job.link?]⟩
    · exact isCurrent_iff.mpr ⟨_, (insert_perm _ _).mem_iff.mpr List.mem_cons_self, rfl⟩
    · simpa [standing, madeFor, toldOf, addLink] using fun m connection hmem => (hr.made _ hmem).ne
    · simpa [standing, madeFor, toldOf, addLink] using fun event hmem => (hr.told event hmem).ne
  · have hget : (r.enrolled link).registry.links[n]? = r.links[n]? := links_addLink hn
    have hstanding : ∀ link', (r.enrolled link).registry.standing n link' = r.standing n link' := by
      intro link'
      simp only [enrolled, standing, isCurrent_addLink hn]
      rfl
    have hself : [Job.enroll link].filter (·.link? = some n) = [] := rfl
    have hnone : ((r.enrolled link).next ++ (r.enrolled link).spawned.flatten).filter
        (·.link? = some n) = [] := by simp [enrolled, Job.link?, Ne.symm hn]
    rw [hself] at hbefore
    rw [hnone, hget] at hafter
    simp only [hstanding] at hafter
    exact .inl (hbefore.trans hafter.symm)

theorem proceeds_enrolled (hr : r.Roster) (ha : r.Agenda) (htask : r.tasks[number]? = some task)
    (hjobs : task.jobs = .enroll link :: rest) (hnew : link.IsNew)
    (hfree : ¬ r.isConnected link.service.key = true) :
    Proceeds rules r (afterJob number rest (r.enrolled link)) where
  roster := (hr.addLink hfree).of_sublist rfl (.refl _) rfl rfl
  agenda := ha.enrolled htask hjobs
  length := by simp [afterJob, enrolled, addLink]
  dossiers _ x' hx' :=
    (dossiers_enrolled hr ha htask hjobs hnew hx').imp_left fun h => ⟨x', h, .inl rfl⟩

/-! ## Actions -/

/-- The next job of a task does what jobs do to the link that it is about. -/
theorem Agenda.obeys_next (ha : r.Agenda) (htask : r.tasks[number]? = some task)
    (hjobs : task.jobs = job :: rest) (hjob : job.link? = some k) :
    ∃ link, r.links[k]? = some link ∧ (r.perform rules job).Obeys rules r k link job := by
  have hmem : job ∈ r.jobs := mem_jobs htask (hjobs ▸ List.mem_cons_self)
  have hlt : k < r.links.length := ha.known job hmem k hjob
  have hlink : r.links[k]? = some r.links[k] := List.getElem?_eq_getElem hlt
  refine ⟨_, hlink, perform_obeys hlink hjob (ha.usual job hmem) ?_⟩
  intro event hevent hfarewell
  have hfirst : StopsFirst r.IsStopped (job :: rest) := ha.stopsFirst_next htask hjobs
  have hk : event.link = k := by
    cases job with
    | announce announced =>
      cases hevent
      exact Option.some_inj.mp hjob
    | _ => cases hevent
  obtain ⟨link, hget, hstage⟩ := hfirst.1 event hevent hfarewell
  rw [hk, hlink] at hget
  rwa [Option.some_inj.mp hget]

/-- A service has gone: its link is abandoned if its source has never been open. This has to wait while the
link is launched. -/
theorem perform_abandon (rules : RegistryRules) {key : ServiceKey} {entry : Entry}
    (hfind : r.find? key = some entry) (hlink : r.links[entry.link]? = some link) :
    r.perform rules (.abandon key) =
      if link.stage = .launching then { registry := r, next := [.abandon key] }
      else if link.isEstablishing then
        { registry := { r with entries := r.entries.filter (·.key ≠ key) }
          next := partingJobs false entry.link entry.service }
      else { registry := r } := by
  simp only [perform, hfind, whenFree, hlink]
  rfl

/-- **A task that does its next job proceeds with it.** -/
theorem proceeds_job (hr : r.Roster) (ha : r.Agenda) (htask : r.tasks[number]? = some task)
    (hjobs : task.jobs = job :: rest) :
    Proceeds rules r (afterJob number rest (r.perform rules job)) := by
  have husual : job.IsUsual := ha.usual job (mem_jobs htask (hjobs ▸ List.mem_cons_self))
  cases hjob : job.link? with
  | some k =>
    obtain ⟨link, hlink, hobeys⟩ := ha.obeys_next htask hjobs hjob
    exact proceeds_obeys hr ha htask hjobs hjob hlink hobeys
  | none =>
    have hidle : ∀ {next : List Job} {failure : Option ConnectError},
        r.perform rules job = { registry := r, next, failure } → job.stops? = none →
        (∀ job ∈ next, job.link? = none ∧ job.IsUsual ∧ job.event? = none) →
        Proceeds rules r (afterJob number rest (r.perform rules job)) :=
      fun heq hstops hnext => heq ▸ proceeds_idles ha htask hjobs hjob hstops (idles_self hr hnext)
    cases job with
    | check request =>
      by_cases hfree : r.isConnected request.key = true
      · exact hidle (by rw [perform, if_pos hfree]) rfl (by simp)
      · cases hprepare : request.prepare with
        | error e => exact hidle (by rw [perform, if_neg hfree, hprepare]) rfl (by simp)
        | ok link =>
          refine hidle (by rw [perform, if_neg hfree, hprepare]) rfl ?_
          simpa [Job.link?, Job.event?, Job.IsUsual] using Request.prepare_isNew hprepare
    | enroll link =>
      by_cases hfree : r.isConnected link.service.key = true
      · exact hidle (by rw [perform, if_pos hfree]) rfl (by simp)
      · rw [perform, if_neg hfree]
        exact proceeds_enrolled hr ha htask hjobs husual hfree
    | detach key =>
      cases hfind : r.find? key with
      | none => exact hidle (by rw [perform, hfind]) rfl (by simp)
      | some entry =>
        rw [perform, hfind]
        exact (parts_single hr hfind true).proceeds hr ha htask hjobs rfl rfl
    | drain => exact (parts_drain rules hr).proceeds hr ha htask hjobs rfl rfl
    | refresh service =>
      by_cases hknown : r.isConnected service.key = true
      · rw [perform, if_pos hknown]
        exact proceeds_idles ha htask hjobs rfl rfl (idles_refresh hr service)
      · by_cases hauto : rules.autoConnects service = true
        · exact hidle (by rw [perform, if_neg hknown, if_pos hauto]) rfl
            (by simp [Job.link?, Job.event?, Job.IsUsual])
        · exact hidle (by rw [perform, if_neg hknown, if_neg hauto]) rfl (by simp)
    | abandon key =>
      cases hfind : r.find? key with
      | none => exact hidle (by rw [perform, hfind]) rfl (by simp)
      | some entry =>
        obtain ⟨link, hlink, -⟩ := hr.keyed entry (find?_eq_some hfind).1
        have hperform := perform_abandon rules hfind hlink
        by_cases hstage : link.stage = .launching
        · rw [if_pos hstage] at hperform
          exact hidle hperform rfl (by simp [Job.link?, Job.event?, Job.IsUsual])
        rw [if_neg hstage] at hperform
        by_cases hestablishing : link.isEstablishing = true
        · rw [if_pos hestablishing] at hperform
          rw [hperform]
          exact (parts_single hr hfind false).proceeds hr ha htask hjobs rfl rfl
        · rw [if_neg hestablishing] at hperform
          exact hidle hperform rfl (by simp)
    | _ => cases hjob

/-- Tasks that come from outside, or from the end of a worker. -/
theorem Agenda.spawn (ha : r.Agenda) {tasks : List Task} (htasks : r'.tasks = r.tasks ++ tasks)
    (hlength : r'.links.length = r.links.length) (hstopped : ∀ n, r.IsStopped n → r'.IsStopped n)
    (hnew : ∀ task ∈ tasks, ∀ job ∈ task.jobs,
      (∀ n, job.link? = some n → n < r.links.length) ∧ job.IsUsual ∧ job.event? = none) :
    r'.Agenda := by
  have hmem : ∀ job ∈ r'.jobs, job ∈ r.jobs ∨ ∃ task ∈ tasks, job ∈ task.jobs := by
    intro job hjob
    rw [jobs, htasks, List.flatMap_append, List.mem_append] at hjob
    exact hjob.imp_right List.mem_flatMap.mp
  refine ⟨fun job hjob n hn => ?_, fun job hjob => ?_, fun task htask => ?_⟩
  · rw [hlength]
    obtain hold | ⟨task, htask, hmem⟩ := hmem job hjob
    · exact ha.known job hold n hn
    · exact (hnew task htask job hmem).1 n hn
  · obtain hold | ⟨task, htask, hmem⟩ := hmem job hjob
    · exact ha.usual job hold
    · exact (hnew task htask job hmem).2.1
  · rw [htasks, List.mem_append] at htask
    obtain hold | htask := htask
    · exact (ha.stopsFirst task hold).mono hstopped
    · refine .of_forall fun job hmem event hevent => ?_
      rw [(hnew task htask job hmem).2.2] at hevent
      cases hevent

theorem dossier?_spawn {tasks : List Task} (htasks : r'.tasks = r.tasks ++ tasks) (n : Nat) :
    r'.dossier? n = (r'.links[n]?).map fun link => ⟨r'.standing n link,
      ↑((tasks.flatMap Task.jobs).filter (·.link? = some n)) +
        ↑(r.jobs.filter (·.link? = some n))⟩ := by
  rw [dossier?, jobs, htasks, List.flatMap_append, List.filter_append, ← Multiset.coe_add, add_comm]
  rfl

theorem Proceeds.refl (hr : r.Roster) (ha : r.Agenda) : Proceeds rules r r :=
  ⟨hr, ha, le_rfl, fun _ x' hx' => .inl ⟨x', hx', .inl rfl⟩⟩

/-- A call begins a task. -/
theorem proceeds_call (hr : r.Roster) (ha : r.Agenda) (call : Call) :
    Proceeds rules r (r.step rules (.call call)) := by
  have hcall : call.job.link? = none ∧ call.job.IsUsual ∧ call.job.event? = none := by
    cases call <;> exact ⟨rfl, trivial, rfl⟩
  refine ⟨hr.of_sublist rfl (.refl _) rfl rfl, ?_, le_rfl, fun n x' hx' => .inl ⟨x', ?_, .inl rfl⟩⟩
  · refine ha.spawn rfl rfl (fun _ h => h) fun task htask job hjob => ?_
    rw [List.mem_singleton] at htask
    subst htask
    rw [List.mem_singleton] at hjob
    subst hjob
    exact ⟨by simp [hcall.1], hcall.2⟩
  · have htasks : (r.step rules (.call call)).tasks = r.tasks ++ [⟨[call.job], none⟩] := rfl
    rw [← hx', dossier?_spawn htasks]
    simp [hcall.1]
    rfl

/-- A task does its next job, if it has one. -/
theorem proceeds_advance (hr : r.Roster) (ha : r.Agenda) (number : Nat) :
    Proceeds rules r (r.step rules (.advance number)) := by
  show Proceeds rules r (r.advance rules number)
  unfold advance
  split
  · next job rest hjobs =>
    obtain ⟨task, htask, hjobs⟩ := Option.map_eq_some_iff.mp hjobs
    exact proceeds_job hr ha htask hjobs
  · exact .refl hr ha

/-- A negotiation is to begin, and no worker can be started. -/
theorem proceeds_failWorker (hr : r.Roster) (ha : r.Agenda) (number : Nat) (reason : String) :
    Proceeds rules r (r.step rules (.failWorker number reason)) := by
  show Proceeds rules r (r.failWorker rules number reason)
  unfold failWorker
  split
  · next k worker rest hjobs =>
    obtain ⟨task, htask, hjobs⟩ := Option.map_eq_some_iff.mp hjobs
    have hlt := ha.known _ (mem_jobs htask (hjobs ▸ List.mem_cons_self)) k rfl
    have hlink : r.links[k]? = some r.links[k] := List.getElem?_eq_getElem hlt
    rw [perform, hlink]
    exact proceeds_obeys hr ha htask hjobs rfl hlink (negotiateLink_obeys hlink (by simp))
  · exact .refl hr ha

/-- **Something happens to one link from outside**, and may spawn a task about it. -/
theorem proceeds_outside (hr : r.Roster) (ha : r.Agenda) (hlink : r.links[k]? = some link)
    {s : Registry} (hs : SameBut k r s) (hlink' : s.links[k]? = some link') (tasks : List Task)
    (sink : List Event)
    (hnew : ∀ task ∈ tasks, ∀ job ∈ task.jobs,
      job.link? = some k ∧ job.IsUsual ∧ job.event? = none)
    (hstep : ∀ jobs, Dossier.Step rules k ⟨r.standing k link, jobs⟩
      ⟨s.standing k link', ↑(tasks.flatMap Task.jobs) + jobs⟩) :
    Proceeds rules r { s with tasks := s.tasks ++ tasks, sink } := by
  have hlt : k < r.links.length := (List.getElem?_eq_some_iff.mp hlink).1
  refine ⟨(hr.sameBut hs hlt).of_sublist rfl (.refl _) rfl rfl, ?_, hs.length.ge,
    fun n x' hx' => .inl ?_⟩
  · refine ha.spawn (congrArg (· ++ tasks) hs.tasks) hs.length (fun _ => hs.isStopped) ?_
    intro task htask job hjob
    obtain ⟨hk, husual, hevent⟩ := hnew task htask job hjob
    exact ⟨fun n hn => Option.some_inj.mp (hk.symm.trans hn) ▸ hlt, husual, hevent⟩
  · rw [dossier?_spawn (r := r) (congrArg (· ++ tasks) hs.tasks)] at hx'
    by_cases hn : n = k
    · subst hn
      have hall : (tasks.flatMap Task.jobs).filter (·.link? = some n) = tasks.flatMap Task.jobs := by
        refine List.filter_eq_self.mpr fun job hjob => ?_
        obtain ⟨task, htask, hjob⟩ := List.mem_flatMap.mp hjob
        simpa using (hnew task htask job hjob).1
      rw [hall] at hx'
      obtain ⟨link'', hget, rfl⟩ := Option.map_eq_some_iff.mp hx'
      obtain rfl : link' = link'' := Option.some_inj.mp (hlink'.symm.trans hget)
      exact ⟨_, by rw [dossier?, hlink]; rfl, .inr (hstep _)⟩
    · have hnone : (tasks.flatMap Task.jobs).filter (·.link? = some n) = [] := by
        refine List.filter_eq_nil_iff.mpr fun job hjob => ?_
        obtain ⟨task, htask, hjob⟩ := List.mem_flatMap.mp hjob
        simpa [(hnew task htask job hjob).1] using Ne.symm hn
      refine ⟨x', ?_, .inl rfl⟩
      rw [hnone, Multiset.coe_nil] at hx'
      rw [← hx', dossier?, ← hs.links n hn]
      simp only [zero_add]
      congr 1
      funext link
      rw [← hs.standing hn]
      rfl

/-- **Somebody answers the prompt of a link.** -/
theorem proceeds_answer (hr : r.Roster) (ha : r.Agenda) (k : Nat) (answer : CredentialAnswer) :
    Proceeds rules r (r.step rules (.answer k answer)) := by
  show Proceeds rules r (r.perform rules (.negotiate k (.reply answer))).registry
  cases hlink : r.links[k]? with
  | none =>
    rw [perform, hlink]
    exact .refl hr ha
  | some link =>
    rw [perform, hlink]
    have hsame : SameBut k r (r.negotiateLink rules k link (.reply answer)).registry :=
      ((SameBut.refl k r).withCache _).setLink hlink rfl id
    have hstep : ∀ jobs, Dossier.Step rules k ⟨r.standing k link, jobs⟩
        ⟨r.standing k { link with negotiation.answer := link.negotiation.answer.or (some answer) },
          ↑(([] : List Task).flatMap Task.jobs) + jobs⟩ := by
      intro jobs
      rw [List.flatMap_nil, Multiset.coe_nil, zero_add]
      exact .answered answer
    have hproceeds := proceeds_outside hr ha hlink hsame (links_setLink hlink _) [] r.sink (by simp)
      hstep
    rwa [List.append_nil] at hproceeds

/-- **Something happens to the worker of a link.** -/
theorem proceeds_source (hr : r.Roster) (ha : r.Agenda) (k : Nat) (input : Input) :
    Proceeds rules r (r.step rules (.source k input)) := by
  show Proceeds rules r (r.feedWorker rules k input)
  unfold feedWorker
  cases hlink : r.links[k]? with
  | none => exact .refl hr ha
  | some link =>
    cases hreception : link.reception with
    | none =>
      simp only [hreception]
      exact .refl hr ha
    | some reception =>
      simp only [hreception]
      refine proceeds_outside hr ha hlink ((SameBut.refl k r).setLink hlink rfl id)
        (links_setLink hlink _) _ _ (fun task htask job hjob => ?_) fun jobs => ?_
      · split at htask
        · rw [List.mem_singleton] at htask
          subst htask
          rw [List.mem_singleton] at hjob
          subst hjob
          exact ⟨rfl, trivial, rfl⟩
        · cases htask
      · have hleave : ∀ worker : Worker,
            (if (worker.phase = .done && reception.worker.phase ≠ .done) = true then
              [(⟨[.leave k], none⟩ : Task)] else []).flatMap Task.jobs =
            if worker.phase = .done ∧ reception.worker.phase ≠ .done then [Job.leave k] else [] := by
          intro worker
          by_cases hended : worker.phase = .done ∧ reception.worker.phase ≠ .done <;> simp [hended]
        rw [hleave]
        exact .fed hreception rfl

/-- **Whatever happens to a registry proceeds with each of its links.** -/
theorem proceeds_step (hr : r.Roster) (ha : r.Agenda) (action : Action) :
    Proceeds rules r (r.step rules action) := by
  cases action with
  | call call => exact proceeds_call hr ha call
  | advance number => exact proceeds_advance hr ha number
  | failWorker number reason => exact proceeds_failWorker hr ha number reason
  | answer k answer => exact proceeds_answer hr ha k answer
  | source k input => exact proceeds_source hr ha k input

/-! ## Runs -/

/-- A link remains, and goes at most one step further. -/
theorem Proceeds.next (h : Proceeds rules r r') {x : Dossier} (hx : r.dossier? n = some x) :
    ∃ x', r'.dossier? n = some x' ∧ (x' = x ∨ Dossier.Step rules n x x') := by
  obtain ⟨link, hlink, -⟩ := Option.map_eq_some_iff.mp hx
  have hlt : n < r'.links.length := (List.getElem?_eq_some_iff.mp hlink).1.trans_le h.length
  have hx' : r'.dossier? n = some _ := congrArg (Option.map _) (List.getElem?_eq_getElem hlt)
  obtain ⟨y, hy, hy'⟩ | ⟨hnone, -⟩ := h.dossiers n _ hx'
  · exact ⟨_, hx', Option.some_inj.mp (hy.symm.trans hx) ▸ hy'⟩
  · cases hnone.symm.trans hx

/-- What is kept by all that can happen to a link holds of it for ever. -/
theorem run_preserves {P : Dossier → Prop} (hstep : ∀ x x', Dossier.Step rules n x x' → P x → P x')
    (hr : r.Roster) (ha : r.Agenda) {x : Dossier} (hx : r.dossier? n = some x) (h : P x)
    (actions : List Action) : ∃ x', (r.run rules actions).dossier? n = some x' ∧ P x' := by
  induction actions generalizing r x with
  | nil => exact ⟨x, hx, h⟩
  | cons action actions ih =>
    have hproceeds : Proceeds rules r (r.step rules action) := proceeds_step hr ha action
    obtain ⟨x', hx', rfl | hstep'⟩ := hproceeds.next hx
    · exact ih hproceeds.roster hproceeds.agenda hx' h
    · exact ih hproceeds.roster hproceeds.agenda hx' (hstep x x' hstep' h)

theorem run_append (r : Registry) (front back : List Action) :
    r.run rules (front ++ back) = (r.run rules front).run rules back :=
  List.foldl_append

/-- **The roster and the agenda of a registry are in order after every run.** -/
theorem orderly_run (hr : r.Roster) (ha : r.Agenda) (actions : List Action) :
    (r.run rules actions).Roster ∧ (r.run rules actions).Agenda := by
  induction actions generalizing r with
  | nil => exact ⟨hr, ha⟩
  | cons action actions ih =>
    have hproceeds : Proceeds rules r (r.step rules action) := proceeds_step hr ha action
    exact ih hproceeds.roster hproceeds.agenda

theorem roster_empty : Roster {} := by constructor <;> simp

theorem agenda_empty : Agenda {} := by constructor <;> simp [jobs]

theorem roster_run (rules : RegistryRules) (actions : List Action) : (run rules {} actions).Roster :=
  (orderly_run roster_empty agenda_empty actions).1

theorem agenda_run (rules : RegistryRules) (actions : List Action) : (run rules {} actions).Agenda :=
  (orderly_run roster_empty agenda_empty actions).2

/-- **Whatever happens after a run proceeds with each link.** -/
theorem proceeds_run (rules : RegistryRules) (actions : List Action) (action : Action) :
    Proceeds rules (run rules {} actions) ((run rules {} actions).step rules action) :=
  proceeds_step (roster_run rules actions) (agenda_run rules actions) action

/-- **What holds of every new link, and is kept by all that can happen to a link, holds of every link
of every run.** -/
theorem dossier_induction {P : Dossier → Prop} (hfresh : ∀ x, x.IsFresh n → P x)
    (hstep : ∀ x x', Dossier.Step rules n x x' → P x → P x') {actions : List Action} {x : Dossier}
    (hx : (run rules {} actions).dossier? n = some x) : P x := by
  induction actions using List.reverseRecOn generalizing x with
  | nil => simp [run, dossier?] at hx
  | append_singleton actions action ih =>
    rw [run_append] at hx
    obtain ⟨y, hy, rfl | hnext⟩ | ⟨-, hnew⟩ := (proceeds_run rules actions action).dossiers n x hx
    · exact ih hy
    · exact hstep y x hnext (ih hy)
    · exact hfresh x hnew

end Registry

end LogIntake
