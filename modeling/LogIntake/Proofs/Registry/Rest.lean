import LogIntake.Proofs.Registry.Upkeep

/-!
# A registry at rest

* `Registry.IsAtRest`: no task is in the middle of something.
* `Link.isWorking`: whether a link has a worker that has not ended and has not been asked to stop.
* **`Registry.none_orphaned`**: whenever a registry is at rest, every such link is the one in force under
  its key, and no link in force has failed.
-/

namespace LogIntake

/-- A task is not in the middle of something: it has ended, it has not begun, or it is the worker of a
negotiation, which may be waiting for an answer. -/
inductive Task.IsAtRest : Task → Prop
  | ended {failure : Option ConnectError} : IsAtRest ⟨[], failure⟩
  | called (call : Call) {failure : Option ConnectError} : IsAtRest ⟨[call.job], failure⟩
  | leaving (n : Nat) {failure : Option ConnectError} : IsAtRest ⟨[.leave n], failure⟩
  | negotiating {n : Nat} {jobs : List Job} {failure : Option ConnectError} (front : List Job)
      (h : front ++ jobs = Registry.negotiationJobs n) : IsAtRest ⟨jobs, failure⟩

/-- Whether the link has a worker that has not ended and has not been asked to stop. -/
def Link.isWorking (link : Link) : Bool :=
  link.reception.any fun reception => !reception.exited && !reception.worker.signal.closed

/-- Whether a job can be the next one of a task at rest: the first of a call, or one of a worker. -/
def Job.begins : Job → Bool
  | .check _ | .detach _ | .drain | .refresh _ | .abandon _ | .leave _ | .launch _ => true
  | .negotiate _ action =>
    match action with
    | .ask | .take | .settle => true
    | .start _ | .reply _ | .report => false
  | .enroll _ | .confirm _ | .keep _ | .withdraw _ | .halt _ | .depart _ | .release _ | .signal _
  | .join _ | .announce _ => false

namespace Registry

/-- No task is in the middle of something. -/
def IsAtRest (r : Registry) : Prop := ∀ task ∈ r.tasks, task.IsAtRest

/-- The negotiation of a link has failed, its source could not be made, or its worker has ended and told
so. -/
inductive HasFailed (rules : RegistryRules) (r : Registry) (n : Nat) (link : Link) : Prop
  | negotiation {e : NegotiationError} (h : link.negotiation.phase = .reported (.error e))
  | creation {connection : Connection} {reason : String} (hmem : (n, connection) ∈ r.creations)
      (h : rules.create link.service.key.name link.plan.kind connection = .error reason)
  | worker {reception : Reception} (h : link.reception = some reception)
      (hended : reception.exited = true ∨
        reception.worker.phase = .done ∧ .leave n ∉ r.jobs)

variable {rules : RegistryRules} {r : Registry} {n : Nat} {link : Link} {job : Job}

/-- Only calls that have not begun and jobs of workers are still to be done at rest. -/
theorem IsAtRest.begins (h : r.IsAtRest) (hjob : job ∈ r.jobs) : job.begins = true := by
  obtain ⟨task, htask, hmem⟩ := List.mem_flatMap.mp hjob
  cases h task htask with
  | ended => cases hmem
  | called call =>
    rw [List.mem_singleton.mp hmem]
    cases call <;> rfl
  | leaving m =>
    rw [List.mem_singleton.mp hmem]
    rfl
  | negotiating front hfront =>
    have hmem := hfront ▸ List.mem_append_right front hmem
    simp only [negotiationJobs, List.mem_cons, List.not_mem_nil, or_false] at hmem
    obtain rfl | rfl | rfl | rfl := hmem <;> rfl

/-- A registry whose tasks have all ended is at rest. -/
theorem isAtRest_of_ended (h : r.tasks.all (·.jobs.isEmpty) = true) : r.IsAtRest := by
  rintro ⟨jobs, failure⟩ htask
  obtain rfl : jobs = [] := List.isEmpty_iff.mp (List.all_eq_true.mp h _ htask)
  exact .ended

/-- A job that does not begin anything is not to be done at rest. -/
theorem IsAtRest.notMem (h : r.IsAtRest) (hjob : job.begins = false) :
    job ∉ (↑(r.jobs.filter (·.link? = some n)) : Multiset Job) := by
  intro hmem
  rw [h.begins (List.mem_of_mem_filter (Multiset.mem_coe.mp hmem))] at hjob
  cases hjob

/-- The dossier of a link at rest. -/
theorem upkeep_of_link {actions : List Action} (hlink : (run rules {} actions).links[n]? = some link) :
    let r := run rules {} actions
    (r.standing n link).Sound rules ∧
      Tended n (r.standing n link) ↑(r.jobs.filter (·.link? = some n)) :=
  let h := upkeep_run (dossier?_eq hlink)
  ⟨h.sound, h.tended⟩

/-- **A worker at rest is that of a running link in force.** -/
theorem running_of_isWorking {actions : List Action} (hrest : (run rules {} actions).IsAtRest)
    (hlink : (run rules {} actions).links[n]? = some link) (hworking : link.isWorking = true) :
    link.stage = .running ∧ (run rules {} actions).isCurrent n = true := by
  obtain ⟨hs, ht⟩ := upkeep_of_link hlink
  obtain ⟨reception, hreception, hworking⟩ := (Option.any_eq_true _ _).mp hworking
  obtain ⟨hexited, hstop⟩ : reception.exited = false ∧ reception.worker.signal.closed = false := by
    simpa using hworking
  have hnotStopped : ¬ link.stage = .stopped := by
    intro hstage
    obtain h | h | h | h := ht.stopped hstage reception hreception
    · simp [hexited] at h
    · simp [hstop] at h
    · exact hrest.notMem rfl h
    · exact hrest.notMem rfl h
  have hrunning : link.stage = .running := by
    obtain ⟨-, -, hstage | hstage | hstage⟩ := hs.received reception hreception
    · exact absurd (ht.launching hstage) (hrest.notMem rfl)
    · exact hstage
    · exact absurd hstage hnotStopped
  refine ⟨hrunning, ?_⟩
  by_contra hforce
  have hout : ((run rules {} actions).standing n link).inForce = false := Bool.eq_false_iff.mpr hforce
  obtain h | h | h := ht.outOfForce hout
  · exact hnotStopped h
  · exact hrest.notMem rfl h
  · exact hrest.notMem rfl h

/-- **A link in force at rest has not failed.** -/
theorem not_hasFailed {actions : List Action} (hrest : (run rules {} actions).IsAtRest)
    (hlink : (run rules {} actions).links[n]? = some link)
    (hcurrent : (run rules {} actions).isCurrent n = true) :
    ¬ (run rules {} actions).HasFailed rules n link := by
  obtain ⟨hs, ht⟩ := upkeep_of_link hlink
  have hstage : ¬ link.negotiation.IsReported ∨ link.stage = .running := by
    obtain ⟨-, hnot⟩ | h | h | h := ht.inForce hcurrent
    · exact .inl hnot
    · exact absurd (ht.launching h) (hrest.notMem rfl)
    · exact .inr h
    · exact absurd h (hrest.notMem rfl)
  have hreported : ∀ result, link.negotiation.phase = .reported result →
      ∃ reception, link.reception = some reception := fun result hphase => by
    obtain hnot | hrunning := hstage
    · exact absurd ⟨result, hphase⟩ hnot
    · exact hs.working (.inr hrunning)
  intro hfailed
  cases hfailed with
  | @negotiation e hphase =>
    obtain ⟨reception, hreception⟩ := hreported _ hphase
    cases hphase.symm.trans (hs.phase_of_reception hreception)
  | @creation connection reason hmem hcreate =>
    have hmade : connection ∈ ((run rules {} actions).standing n link).made := by
      simpa [standing, madeFor] using hmem
    obtain hnone | ⟨other, hone, hphase⟩ := hs.made
    · rw [hnone] at hmade
      cases hmade
    · obtain ⟨reception, hreception⟩ := hreported _ hphase
      obtain ⟨hone, hok, -⟩ := hs.received reception hreception
      rw [hone, List.mem_singleton] at hmade
      rw [hmade] at hcreate
      cases hok.symm.trans hcreate
  | @worker reception hreception hended =>
    have hexited : reception.exited = true := by
      obtain h | ⟨hdone, hleave⟩ := hended
      · exact h
      · obtain h | h | h := ht.done reception hreception hdone
        · exact h
        · exact absurd (List.mem_of_mem_filter (Multiset.mem_coe.mp h)) hleave
        · exact absurd h (hrest.notMem rfl)
    cases hcurrent.symm.trans (ht.exited reception hreception hexited)

/-- The entry of a link in force is found under the key of its service. -/
theorem Roster.find?_of_isCurrent (hr : r.Roster) (hlink : r.links[n]? = some link)
    (hcurrent : r.isCurrent n = true) :
    ∃ entry, r.find? link.service.key = some entry ∧ entry.link = n := by
  obtain ⟨entry, hentry, rfl⟩ := isCurrent_iff.mp hcurrent
  obtain ⟨link', hlink', hkey⟩ := hr.keyed entry hentry
  obtain rfl : link = link' := Option.some_inj.mp (hlink.symm.trans hlink')
  obtain ⟨found, hfound⟩ : ∃ found, r.find? link.service.key = some found :=
    Option.isSome_iff_exists.mp (List.find?_isSome.mpr ⟨entry, hentry, by simp [hkey]⟩)
  obtain ⟨hmem, hsame⟩ := find?_eq_some hfound
  exact ⟨found, hfound, by rw [hr.key_inj hmem hentry (hsame.trans hkey)]⟩

/-- **No receiver is orphaned.** Whenever a registry is at rest, every link with a worker that has not
ended and has not been asked to stop is running and found under the key of its service, no two of them
have a key in common, and no link in force has failed. -/
theorem none_orphaned {actions : List Action} (hrest : (run rules {} actions).IsAtRest) :
    let r := run rules {} actions
    (∀ n link, r.links[n]? = some link → link.isWorking → link.stage = .running ∧
      ∃ entry, r.find? link.service.key = some entry ∧ entry.link = n) ∧
    (∀ (n m : Nat) (link link' : Link), r.links[n]? = some link → r.links[m]? = some link' →
      link.isWorking → link'.isWorking → link.service.key = link'.service.key → n = m) ∧
    ∀ entry ∈ r.entries, ∃ link, r.links[entry.link]? = some link ∧
      ¬ r.HasFailed rules entry.link link := by
  intro r
  have hr : r.Roster := roster_run rules actions
  have hfound : ∀ n link, r.links[n]? = some link → link.isWorking → link.stage = .running ∧
      ∃ entry, r.find? link.service.key = some entry ∧ entry.link = n := by
    intro n link hlink hworking
    obtain ⟨hstage, hcurrent⟩ := running_of_isWorking hrest hlink hworking
    exact ⟨hstage, hr.find?_of_isCurrent hlink hcurrent⟩
  refine ⟨hfound, fun n m link link' hlink hlink' hworking hworking' hkey => ?_, fun entry hentry => ?_⟩
  · obtain ⟨-, entry, hentry, rfl⟩ := hfound n link hlink hworking
    obtain ⟨-, entry', hentry', rfl⟩ := hfound m link' hlink' hworking'
    rw [hkey] at hentry
    rw [Option.some_inj.mp (hentry.symm.trans hentry')]
  · obtain ⟨link, hlink, -⟩ := hr.keyed entry hentry
    exact ⟨link, hlink, not_hasFailed hrest hlink (isCurrent_iff.mpr ⟨entry, hentry, rfl⟩)⟩

/-- Rules under which nobody is asked for credentials and every source can be made. -/
def plainRules : RegistryRules where
  negotiation := { requiresCredentials := fun _ => false, hasProvider := false }
  surroundings := ⟨⟨.utc, 1970⟩, fun _ => 0⟩
  create _ _ _ := .ok ()

/-- A file that is connected by the task of a number. -/
def connection (number : Nat) : List Action :=
  .call (.connect (.manual "app" { uri := "/log" })) :: List.replicate 6 (.advance number)

/-- A file that is disconnected while it is read, and connected again before its first worker tells that
it has ended. -/
def reconnection : List Action :=
  connection 0 ++
    [.call (.disconnect (Service.manual "app").key), .advance 1, .advance 1, .advance 1,
      .source 0 .tick] ++
    connection 3 ++ [.advance 2, .advance 2, .advance 2, .advance 1, .advance 1]

/-- What the first worker tells does not touch the second one. -/
theorem none_orphaned_reconnection :
    let r := run plainRules {} reconnection
    r.IsAtRest ∧ r.links.map Link.isWorking = [false, true] ∧
      ∃ entry, r.find? (Service.manual "app").key = some entry ∧ entry.link = 1 := by
  intro r
  have hrest : r.IsAtRest := by
    have hdone : ∀ task ∈ r.tasks, task.jobs.isEmpty = true :=
      List.all_eq_true.mp (by decide +kernel)
    rintro ⟨jobs, failure⟩ htask
    obtain rfl : jobs = [] := List.isEmpty_iff.mp (hdone _ htask)
    exact .ended
  have hsecond : (r.links[1]?).map (fun link => (link.isWorking, link.service.key)) =
      some (true, (Service.manual "app").key) := by decide +kernel
  obtain ⟨link, hlink, heq⟩ := Option.map_eq_some_iff.mp hsecond
  obtain ⟨hworking, hkey⟩ := Prod.mk.inj heq
  obtain ⟨-, hentry⟩ := (none_orphaned hrest).1 1 link hlink hworking
  exact ⟨hrest, by decide +kernel, hkey ▸ hentry⟩

end Registry

end LogIntake
