import LogIntake.Proofs.Registry.Rest

/-!
# When a source is made

* `Registry.jobsDone`: the jobs that tasks do in a run.
* `Registry.cancelled_before`, `Registry.cancelled_later`: a link that is stopped while its negotiation
  has no certain result has it cancelled.
* **`Registry.made_once`**: the source of a link is made at most once, of the connection that its
  negotiation has ended with, and never after the link has been stopped.
-/

namespace LogIntake

namespace Negotiation

variable {rules : NegotiationRules} {cache : CredentialCache} {negotiation : Negotiation}

/-- The result of a negotiation is certain. -/
def IsCertain (negotiation : Negotiation) : Prop :=
  ∃ result, negotiation.phase = .settled result ∨ negotiation.phase = .reported result

/-- Nobody has answered yet. -/
def isWaiting (negotiation : Negotiation) : Bool :=
  match negotiation.phase with
  | .waiting => true
  | _ => false

theorem IsReported.isCertain (h : negotiation.IsReported) : negotiation.IsCertain :=
  h.imp fun _ => .inr

theorem IsCertain.step (h : negotiation.IsCertain) (action : NegotiationAction) :
    (negotiation.step rules cache action).2.IsCertain := by
  obtain ⟨result, hphase | hphase⟩ := h
  · cases action with
    | report => exact ⟨result, .inr (by simp [Negotiation.step, hphase])⟩
    | _ => exact ⟨result, .inl (by simp [Negotiation.step, hphase])⟩
  · exact ⟨result, .inr (step_phase_of_reported hphase action)⟩

end Negotiation

variable {rules : RegistryRules} {n : Nat} {job : Job} {x x' : Standing} {jobs : List Job}
  {beside : Multiset Job}

/-! ## Stopped links -/

/-- **A link that has been stopped remains so**, and no source is made for it. -/
theorem Dossier.Step.stopped {x x' : Dossier} (hstep : x.Step rules n x')
    (hstage : x.standing.link.stage = .stopped) :
    x'.standing.link.stage = .stopped ∧ x'.standing.made = x.standing.made := by
  cases hstep with
  | parted | answered | fed => exact ⟨hstage, rfl⟩
  | does hdoes =>
    cases hdoes with
    | failed _ hnot => exact absurd hstage hnot
    | launched _ hnot => exact absurd hstage hnot
    | confirmed hlaunching => cases hstage.symm.trans hlaunching
    | kept hpending => cases hstage.symm.trans hpending
    | halted | released => exact ⟨rfl, rfl⟩
    | _ => exact ⟨hstage, rfl⟩

/-- **A source is made only when the negotiation has ended well**, for a link that has not been
stopped and had none before. -/
theorem Dossier.Step.makes {x x' : Dossier} (hstep : x.Step rules n x') (h : x.Upkeep rules n)
    (hmade : x'.standing.made ≠ x.standing.made) :
    ∃ connection, x.standing.link.negotiation.phase = .settled (.ok connection) ∧
      x.standing.link.stage ≠ .stopped ∧ x'.standing.made = [connection] := by
  cases hstep with
  | parted | answered | fed => exact absurd rfl hmade
  | does hdoes =>
    cases hdoes with
    | failed hphase hstage | launched hphase hstage =>
      exact ⟨_, hphase, hstage, congrArg (· ++ [_]) (h.sound.made_of_settled hphase)⟩
    | _ => exact absurd rfl hmade

/-! ## Cancelling -/

/-- A link has been stopped, and it may be that nobody cancels its negotiation. -/
structure Dossier.IsForsaken (n : Nat) (x : Dossier) : Prop where
  stopped : x.standing.link.stage = .stopped
  uncertain : ¬ x.standing.link.negotiation.IsCertain
  notKept : .keep n ∉ x.jobs
  notCancelled : .negotiate n (.reply .cancelled) ∉ x.jobs

/-- **A job about a link forsakes it only if it cancels the negotiation**, or the link was forsaken. -/
theorem Does.forsaken (hdoes : Does rules n job x x' jobs) (hs : x.Sound rules)
    (ht : Tended n x (job ::ₘ beside)) (hx' : Dossier.IsForsaken n ⟨x', ↑jobs + beside⟩) :
    x.link.stage = .stopped ∧ ¬ x.link.negotiation.IsCertain ∧ .keep n ∉ job ::ₘ beside := by
  obtain ⟨hstage, huncertain, hkeep, hcancel⟩ := hx'
  cases hdoes with
  | waits => exact ⟨hstage, huncertain, by simpa using hkeep⟩
  | negotiates =>
    exact ⟨hstage, fun h => huncertain (h.step _), fun h => hkeep (Tended.mem_after (by simp) h)⟩
  | launched | confirmed | kept => cases hstage
  | refused => exact absurd ⟨_, .inr rfl⟩ huncertain
  | late => exact absurd ⟨_, .inr rfl⟩ huncertain
  | failed => exact absurd ⟨_, .inr rfl⟩ huncertain
  | halted => exact absurd (ht.halts (by simp)).2.1.isCertain huncertain
  | cancels => exact absurd (by simp) hcancel
  | keepsNothing hne => simp [show x.link.stage = .stopped from hstage] at hne
  | released hlaunching =>
    cases hold : x.link.stage with
    | pending => exact absurd (Tended.mem_after (by simp) (ht.pending hold)) hkeep
    | negotiating =>
      rw [hold] at hcancel
      exact absurd (by simp [Registry.endingJobs]) hcancel
    | launching => exact absurd hold hlaunching
    | running =>
      obtain ⟨reception, hreception⟩ := hs.working (.inr hold)
      exact absurd ⟨_, .inr (hs.phase_of_reception hreception)⟩ huncertain
    | stopped => exact ⟨rfl, huncertain, fun h => hkeep (Tended.mem_after (by simp) h)⟩
  | _ => exact ⟨hstage, huncertain, fun h => hkeep (Tended.mem_after (by simp) h)⟩

theorem Dossier.Step.forsaken {x x' : Dossier} (hstep : x.Step rules n x') (h : x.Upkeep rules n)
    (hx' : x'.IsForsaken n) :
    x.IsForsaken n ∨ .negotiate n (.reply .cancelled) ∈ x.jobs := by
  by_cases hcancel : .negotiate n (.reply .cancelled) ∈ x.jobs
  · exact .inr hcancel
  left
  cases hstep with
  | does hdoes =>
    obtain ⟨hstage, huncertain, hkeep⟩ := hdoes.forsaken h.sound h.tended hx'
    exact ⟨hstage, huncertain, hkeep, hcancel⟩
  | parted | fed =>
    exact ⟨hx'.stopped, hx'.uncertain, fun h => hx'.notKept (Multiset.mem_add.mpr (.inr h)), hcancel⟩
  | answered => exact ⟨hx'.stopped, hx'.uncertain, hx'.notKept, hcancel⟩

/-- The call that has begun a negotiation cancels it if it finds the link stopped. -/
theorem Dossier.Step.keeps {x x' : Dossier} (hstep : x.Step rules n x')
    (hstage : x.standing.link.stage = .stopped) (hkeep : .keep n ∈ x.jobs) :
    .keep n ∈ x'.jobs ∨ .negotiate n (.reply .cancelled) ∈ x'.jobs := by
  cases hstep with
  | parted | fed => exact .inl (Multiset.mem_add.mpr (.inr hkeep))
  | answered => exact .inl hkeep
  | @does job _ _ _ _ hdoes =>
    by_cases hjob : job = .keep n
    · subst hjob
      cases hdoes with
      | waits => simp
      | cancels => simp
      | kept hpending => cases hstage.symm.trans hpending
      | keepsNothing hgoes => obtain h | h := hgoes <;> cases hstage.symm.trans h
    · exact .inl (Tended.mem_after (Ne.symm hjob) hkeep)

namespace Registry

variable {r : Registry} {link : Link}

/-- The job that a task does in an action. -/
def jobDone (r : Registry) : Action → Option Job
  | .advance number => (r.tasks[number]?).bind (·.jobs.head?)
  | .call _ | .failWorker _ _ | .answer _ _ | .source _ _ => none

/-- The jobs that tasks do in a run. -/
def jobsDone (rules : RegistryRules) : Registry → List Action → List Job
  | _, [] => []
  | r, action :: actions => (r.jobDone action).toList ++ jobsDone rules (r.step rules action) actions

theorem jobsDone_append (r : Registry) (front back : List Action) :
    jobsDone rules r (front ++ back) =
      jobsDone rules r front ++ jobsDone rules (r.run rules front) back := by
  induction front generalizing r with
  | nil => rfl
  | cons action front ih =>
    simp only [List.cons_append, jobsDone, ih, List.append_assoc]
    rfl

theorem perform_tasks (r : Registry) (job : Job) : (r.perform rules job).registry.tasks = r.tasks := by
  cases job <;> simp only [perform, whenFree, negotiateLink, launchLink] <;> repeat' split
  all_goals rfl

theorem mem_jobs_of_append {r' : Registry} {tasks : List Task} (htasks : r'.tasks = r.tasks ++ tasks)
    (hjob : job ∈ r.jobs) : job ∈ r'.jobs := by
  rw [jobs, htasks, List.flatMap_append]
  exact List.mem_append_left _ hjob

/-- A task that does its next job leaves the others to do. -/
theorem mem_jobs_afterJob {number : Nat} {task : Task} {first performed : Job} {rest : List Job}
    (htask : r.tasks[number]? = some task) (hjobs : task.jobs = first :: rest) (hjob : job ∈ r.jobs)
    (hne : job ≠ first) : job ∈ (afterJob number rest (r.perform rules performed)).jobs := by
  obtain ⟨beside, hbefore, hafter⟩ := exists_beside htask hjobs (r.perform_tasks performed)
  rw [← Multiset.mem_coe, hafter, Multiset.mem_add]
  rw [← Multiset.mem_coe, hbefore] at hjob
  exact .inr ((Multiset.mem_cons.mp hjob).resolve_left hne)

/-- **A job is to be done until it is done.** -/
theorem mem_jobs_step {action : Action} (hjob : job ∈ r.jobs)
    (hstart : ∀ k worker, job ≠ .negotiate k (.start worker)) :
    job ∈ (r.step rules action).jobs ∨ r.jobDone action = some job := by
  cases action with
  | call call => exact .inl (mem_jobs_of_append rfl hjob)
  | advance number =>
    show job ∈ (r.advance rules number).jobs ∨ _
    unfold advance
    split
    · next first rest hhead =>
      obtain ⟨task, htask, hjobs⟩ := Option.map_eq_some_iff.mp hhead
      by_cases hne : job = first
      · right
        simp [jobDone, htask, hjobs, hne]
      · exact .inl (mem_jobs_afterJob htask hjobs hjob hne)
    · exact .inl hjob
  | failWorker number reason =>
    left
    show job ∈ (r.failWorker rules number reason).jobs
    unfold failWorker
    split
    · next k worker rest hhead =>
      obtain ⟨task, htask, hjobs⟩ := Option.map_eq_some_iff.mp hhead
      exact mem_jobs_afterJob htask hjobs hjob (hstart k worker)
    · exact hjob
  | answer k answer =>
    left
    have htasks : (r.step rules (.answer k answer)).tasks = r.tasks ++ [] := by
      rw [List.append_nil]
      exact r.perform_tasks _
    exact mem_jobs_of_append htasks hjob
  | source k input =>
    left
    show job ∈ (r.feedWorker rules k input).jobs
    unfold feedWorker
    split
    · exact hjob
    · split
      · exact hjob
      · exact mem_jobs_of_append rfl hjob

/-- **The negotiation of a stopped link has been cancelled**, unless its result is certain or somebody
is about to cancel it. -/
theorem cancelled_before (actions : List Action) {x : Dossier}
    (hx : (run rules {} actions).dossier? n = some x) (h : x.IsForsaken n) :
    .negotiate n (.reply .cancelled) ∈ jobsDone rules {} actions := by
  induction actions using List.reverseRecOn generalizing x with
  | nil => simp [run, dossier?] at hx
  | append_singleton actions action ih =>
    rw [run_append] at hx
    rw [jobsDone_append]
    obtain ⟨y, hy, heq | hstep⟩ | ⟨-, hfresh⟩ := (proceeds_run rules actions action).dossiers n x hx
    · exact List.mem_append_left _ (ih hy (heq ▸ h))
    · obtain hforsaken | hcancel := hstep.forsaken (upkeep_run hy) h
      · exact List.mem_append_left _ (ih hy hforsaken)
      · obtain hstill | hdone := mem_jobs_step (mem_of_dossier? hy hcancel) (by simp)
        · exact absurd (mem_dossier?_jobs hx rfl hstill) h.notCancelled
        · exact List.mem_append_right _ (by simp [jobsDone, hdone])
    · cases hfresh.link.stage.symm.trans h.stopped

/-- **Whoever is about to cancel the negotiation of a stopped link does so.** -/
theorem cancelled_later (hr : r.Roster) (ha : r.Agenda) {x : Dossier} (hx : r.dossier? n = some x)
    (hstage : x.standing.link.stage = .stopped)
    (howed : .keep n ∈ r.jobs ∨ .negotiate n (.reply .cancelled) ∈ r.jobs) (actions : List Action) :
    .negotiate n (.reply .cancelled) ∈ jobsDone rules r actions ∨
      .keep n ∈ (r.run rules actions).jobs ∨
      .negotiate n (.reply .cancelled) ∈ (r.run rules actions).jobs := by
  induction actions generalizing r x with
  | nil => exact .inr howed
  | cons action actions ih =>
    have hproceeds : Proceeds rules r (r.step rules action) := proceeds_step hr ha action
    obtain ⟨x', hx', hnext⟩ := hproceeds.next hx
    have hstage' : x'.standing.link.stage = .stopped := by
      obtain rfl | hstep := hnext
      · exact hstage
      · exact (hstep.stopped hstage).1
    have hafter : .negotiate n (.reply .cancelled) ∈ (r.jobDone action).toList ∨
        .keep n ∈ (r.step rules action).jobs ∨
        .negotiate n (.reply .cancelled) ∈ (r.step rules action).jobs := by
      obtain hkeep | hcancel := howed
      · have hkeep := mem_dossier?_jobs hx rfl hkeep
        have hjobs : .keep n ∈ x'.jobs ∨ .negotiate n (.reply .cancelled) ∈ x'.jobs := by
          obtain rfl | hstep := hnext
          · exact .inl hkeep
          · exact hstep.keeps hstage hkeep
        exact .inr (hjobs.imp (mem_of_dossier? hx') (mem_of_dossier? hx'))
      · have hstep : .negotiate n (.reply .cancelled) ∈ (r.step rules action).jobs ∨
            r.jobDone action = some (.negotiate n (.reply .cancelled)) := mem_jobs_step hcancel (by simp)
        obtain hstill | hdone := hstep
        · exact .inr (.inr hstill)
        · exact .inl (by simp [hdone])
    obtain hdone | howed' := hafter
    · exact .inl (List.mem_append_left _ hdone)
    · exact (ih hproceeds.roster hproceeds.agenda hx' hstage' howed').imp_left
        (List.mem_append_right _)

/-- **The negotiation of a link that is stopped before the result is certain is cancelled**, as soon as
nobody is about to do so any more. -/
theorem cancelled_of_isStopped {front : List Action} (back : List Action)
    (hlink : (run rules {} front).links[n]? = some link) (hstage : link.stage = .stopped)
    (huncertain : ¬ link.negotiation.IsCertain)
    (hkeep : .keep n ∉ (run rules {} (front ++ back)).jobs)
    (hcancel : .negotiate n (.reply .cancelled) ∉ (run rules {} (front ++ back)).jobs) :
    .negotiate n (.reply .cancelled) ∈ jobsDone rules {} (front ++ back) := by
  have hx := dossier?_eq hlink
  rw [run_append] at hkeep hcancel
  rw [jobsDone_append]
  -- whoever stopped the link may have left the cancelling to the call that began the negotiation
  by_cases howed : .keep n ∈ (run rules {} front).jobs ∨
      .negotiate n (.reply .cancelled) ∈ (run rules {} front).jobs
  · obtain hdone | hstill | hstill :=
      cancelled_later (roster_run rules front) (agenda_run rules front) hx hstage howed back
    · exact List.mem_append_right _ hdone
    · exact absurd hstill hkeep
    · exact absurd hstill hcancel
  · rw [not_or] at howed
    exact List.mem_append_left _ (cancelled_before front hx
      ⟨hstage, huncertain, fun h => howed.1 (mem_of_dossier? hx h),
        fun h => howed.2 (mem_of_dossier? hx h)⟩)

/-! ## Making -/

theorem madeFor_of_length_le (hr : r.Roster) (h : r.links.length ≤ n) : r.madeFor n = [] := by
  have hnone : r.creations.filter (·.1 = n) = [] := by
    refine List.filter_eq_nil_iff.mpr fun creation hcreation => ?_
    have hlt : creation.1 < r.links.length := hr.made creation hcreation
    simp only [decide_eq_true_eq]
    omega
  rw [madeFor, hnone, List.map_nil]

/-- **At most one source is made for a link**, of the connection that has been negotiated. -/
theorem madeFor_run (actions : List Action) (n : Nat) :
    let r := run rules {} actions
    r.madeFor n = [] ∨ ∃ link connection, r.links[n]? = some link ∧
      link.negotiation.phase = .reported (.ok connection) ∧ r.madeFor n = [connection] := by
  intro r
  cases hlink : r.links[n]? with
  | none =>
    exact .inl (madeFor_of_length_le (roster_run rules actions) (List.getElem?_eq_none_iff.mp hlink))
  | some link =>
    obtain hnone | ⟨connection, hmade, hphase⟩ := (upkeep_of_link hlink).1.made
    · exact .inl hnone
    · exact .inr ⟨link, connection, rfl, hphase, hmade⟩

/-- **A source is made only when the negotiation has ended well**, and of its connection. -/
theorem madeFor_step {actions : List Action} {action : Action}
    (hmade : ((run rules {} actions).step rules action).madeFor n ≠ (run rules {} actions).madeFor n) :
    ∃ link connection, (run rules {} actions).links[n]? = some link ∧ link.stage ≠ .stopped ∧
      link.negotiation.phase = .settled (.ok connection) ∧
      ((run rules {} actions).step rules action).madeFor n = [connection] := by
  have hr := roster_run rules actions
  have hproceeds := proceeds_run rules actions action
  cases hlink' : ((run rules {} actions).step rules action).links[n]? with
  | none =>
    have hle := List.getElem?_eq_none_iff.mp hlink'
    rw [madeFor_of_length_le hproceeds.roster hle,
      madeFor_of_length_le hr (hproceeds.length.trans hle)] at hmade
    exact absurd rfl hmade
  | some link' =>
    obtain ⟨x, hx, heq | hstep⟩ | ⟨hnone, hfresh⟩ := hproceeds.dossiers n _ (dossier?_eq hlink')
    · obtain ⟨link, -, rfl⟩ := Option.map_eq_some_iff.mp hx
      exact absurd (congrArg (·.standing.made) heq) hmade
    · have hupkeep := upkeep_run hx
      obtain ⟨link, hlink, rfl⟩ := Option.map_eq_some_iff.mp hx
      obtain ⟨connection, hphase, hstage, hone⟩ := hstep.makes hupkeep hmade
      exact ⟨link, connection, hlink, hstage, hphase, hone⟩
    · have hle : (run rules {} actions).links.length ≤ n :=
        List.getElem?_eq_none_iff.mp (Option.map_eq_none_iff.mp hnone)
      rw [madeFor_of_length_le hr hle] at hmade
      exact absurd hfresh.made hmade

/-- **Nothing is made for a link that has been stopped.** -/
theorem madeFor_of_isStopped {front : List Action} (back : List Action)
    (h : (run rules {} front).IsStopped n) :
    (run rules {} (front ++ back)).IsStopped n ∧
      (run rules {} (front ++ back)).madeFor n = (run rules {} front).madeFor n := by
  obtain ⟨link, hlink, hstage⟩ := h
  rw [run_append]
  obtain ⟨x, hx, hstage', hmade⟩ := run_preserves
    (P := fun x => x.standing.link.stage = .stopped ∧
      x.standing.made = (run rules {} front).madeFor n)
    (fun x x' hstep h => (hstep.stopped h.1).imp_right (·.trans h.2)) (roster_run rules front)
    (agenda_run rules front) (dossier?_eq hlink) ⟨hstage, rfl⟩ back
  obtain ⟨link', hlink', rfl⟩ := Option.map_eq_some_iff.mp hx
  exact ⟨⟨link', hlink', hstage'⟩, hmade⟩

/-- **The source of a link is made at most once**, only when its negotiation has ended well and of the
connection that it has ended with, and never after the link has been stopped. A link out of force has
been stopped unless that is still to be done. If a link is stopped before the result of its negotiation
is certain, the negotiation is cancelled. -/
theorem made_once (rules : RegistryRules) (front back : List Action) (n : Nat) :
    let r := run rules {} front
    let r' := run rules {} (front ++ back)
    (r.madeFor n = [] ∨ ∃ link connection, r.links[n]? = some link ∧
      link.negotiation.phase = .reported (.ok connection) ∧ r.madeFor n = [connection]) ∧
    (∀ action, (r.step rules action).madeFor n ≠ r.madeFor n → ∃ link connection,
      r.links[n]? = some link ∧ link.stage ≠ .stopped ∧
      link.negotiation.phase = .settled (.ok connection) ∧
      (r.step rules action).madeFor n = [connection]) ∧
    (r.IsStopped n → r'.IsStopped n ∧ r'.madeFor n = r.madeFor n) ∧
    ∀ link, r.links[n]? = some link →
      (r.isCurrent n = false → .release n ∉ r.jobs → .halt n ∉ r.jobs → link.stage = .stopped) ∧
      (link.stage = .stopped → ¬ link.negotiation.IsCertain → .keep n ∉ r'.jobs →
        .negotiate n (.reply .cancelled) ∉ r'.jobs →
        .negotiate n (.reply .cancelled) ∈ jobsDone rules {} (front ++ back)) := by
  intro r r'
  refine ⟨madeFor_run front n, fun _ => madeFor_step, madeFor_of_isStopped back,
    fun link hlink => ⟨fun hforce hrelease hhalt => ?_, cancelled_of_isStopped back hlink⟩⟩
  have hjobs : link.stage = .stopped ∨ _ := (upkeep_of_link hlink).2.outOfForce hforce
  obtain hstage | h | h := hjobs
  · exact hstage
  · exact absurd (List.mem_of_mem_filter (Multiset.mem_coe.mp h)) hrelease
  · exact absurd (List.mem_of_mem_filter (Multiset.mem_coe.mp h)) hhalt

/-- Rules under which somebody is asked for the credentials of every link. -/
def askingRules : RegistryRules :=
  { plainRules with negotiation := { requiresCredentials := fun _ => true, hasProvider := true } }

/-- A file whose credentials are asked for. It is stopped before there is an answer. -/
def abandonment : List Action :=
  [.call (.connect (.manual "app" { uri := "sftp://host/log", promptForUser := true })), .advance 0,
    .advance 0, .advance 0, .advance 0, .advance 1,
    .call (.disconnect (Service.manual "app").key), .advance 2, .advance 2]

/-- What is still to be done for a file that has been abandoned. -/
def aftermath : List Action :=
  [.advance 2, .advance 2, .advance 2, .advance 1, .advance 1, .advance 1, .advance 1]

/-- The negotiation of the file is cancelled, and no source is made for it. -/
theorem made_once_abandonment :
    (run askingRules {} abandonment).IsStopped 0 ∧
      (run askingRules {} (abandonment ++ aftermath)).madeFor 0 = [] ∧
      .negotiate 0 (.reply .cancelled) ∈ jobsDone askingRules {} (abandonment ++ aftermath) := by
  obtain ⟨-, -, hmade, hends⟩ := made_once askingRules abandonment aftermath 0
  have hlink : ((run askingRules {} abandonment).links[0]?).any (fun link =>
      link.stage = .stopped && link.negotiation.isWaiting) = true := by decide +kernel
  obtain ⟨link, hlink, h⟩ := (Option.any_eq_true _ _).mp hlink
  obtain ⟨hstage, hphase⟩ := Bool.and_eq_true_iff.mp h
  have hstage : link.stage = .stopped := of_decide_eq_true hstage
  have huncertain : ¬ link.negotiation.IsCertain := by
    rintro ⟨result, h | h⟩ <;> simp [Negotiation.isWaiting, h] at hphase
  have hjobs : (run askingRules {} (abandonment ++ aftermath)).jobs = [] :=
    List.isEmpty_iff.mp (by decide +kernel)
  have hnone : (run askingRules {} abandonment).madeFor 0 = [] :=
    List.isEmpty_iff.mp (by decide +kernel)
  refine ⟨⟨link, hlink, hstage⟩, (hmade ⟨link, hlink, hstage⟩).2.trans hnone, ?_⟩
  exact (hends link hlink).2 hstage huncertain (by simp [hjobs]) (by simp [hjobs])

end Registry

end LogIntake
