import LogIntake.Proofs.Registry.Run

/-!
# What is made for a link, and what is still to be done about it

* `Standing.Sound`: a source is to be made for a link at most once, of the connection that its
  negotiation has reported.
* `Tended`: the jobs that are still to be done about a link fit where it stands.
* **`Dossier.Upkeep.step`**: both are kept by all that can happen to a link.
* **`Registry.upkeep_run`**: both hold of every link in every run.
-/

namespace LogIntake

namespace Negotiation

variable {rules : NegotiationRules} {cache : CredentialCache} {negotiation : Negotiation}
  {result : NegotiationResult}

/-- The result of a negotiation has been reported. -/
def IsReported (negotiation : Negotiation) : Prop := ∃ result, negotiation.phase = .reported result

/-- What has been reported stays so. -/
theorem step_phase_of_reported (h : negotiation.phase = .reported result)
    (action : NegotiationAction) :
    (negotiation.step rules cache action).2.phase = .reported result := by
  cases action <;> simp [step, h]

/-- A result is reported by nothing but a report. -/
theorem phase_of_step_reported {action : NegotiationAction} (notReport : action ≠ .report)
    (h : (negotiation.step rules cache action).2.phase = .reported result) :
    negotiation.phase = .reported result := by
  cases action with
  | report => exact absurd rfl notReport
  | reply answer => exact h
  | start worker =>
    cases hphase : negotiation.phase with
    | fresh =>
      simp only [step, hphase, started] at h
      repeat' split at h
      all_goals cases h
    | _ => simp_all [step]
  | ask | settle => cases hphase : negotiation.phase <;> simp_all [step]
  | take => cases hphase : negotiation.phase <;> cases hanswer : negotiation.answer <;> simp_all [step]

theorem step_isReported_iff {action : NegotiationAction} (notReport : action ≠ .report) :
    (negotiation.step rules cache action).2.IsReported ↔ negotiation.IsReported :=
  ⟨fun ⟨result, h⟩ => ⟨result, phase_of_step_reported notReport h⟩,
    fun ⟨result, h⟩ => ⟨result, step_phase_of_reported h action⟩⟩

end Negotiation

/-- What has been made for a link fits its negotiation: a source is to be made for it only once, of the
connection that has been reported, and a worker has this connection. -/
structure Standing.Sound (rules : RegistryRules) (x : Standing) : Prop where
  made : x.made = [] ∨ ∃ connection, x.made = [connection] ∧
    x.link.negotiation.phase = .reported (.ok connection)
  received : ∀ reception, x.link.reception = some reception →
    x.made = [reception.connection] ∧
    rules.create x.link.service.key.name x.link.plan.kind reception.connection = .ok () ∧
    (x.link.stage = .launching ∨ x.link.stage = .running ∨ x.link.stage = .stopped)
  working : x.link.stage = .launching ∨ x.link.stage = .running →
    ∃ reception, x.link.reception = some reception

variable {rules : RegistryRules} {n : Nat} {job : Job} {x x' : Standing} {jobs : List Job}
  {beside : Multiset Job}

namespace Standing.Sound

/-- Nothing has been made for a link whose result is still to be reported. -/
theorem made_of_settled (h : x.Sound rules) {result : NegotiationResult}
    (hphase : x.link.negotiation.phase = .settled result) : x.made = [] := by
  obtain hnone | ⟨connection, -, hreported⟩ := h.made
  · exact hnone
  · rw [hphase] at hreported
    cases hreported

theorem reception_of_settled (h : x.Sound rules) {result : NegotiationResult}
    (hphase : x.link.negotiation.phase = .settled result) : x.link.reception = none := by
  cases hreception : x.link.reception with
  | none => rfl
  | some reception =>
    have hmade := (h.received reception hreception).1
    rw [h.made_of_settled hphase] at hmade
    cases hmade

/-- The worker of a link has the connection that has been reported. -/
theorem phase_of_reception (h : x.Sound rules) {reception : Reception}
    (hreception : x.link.reception = some reception) :
    x.link.negotiation.phase = .reported (.ok reception.connection) := by
  have hmade := (h.received reception hreception).1
  obtain hnone | ⟨connection, hone, hphase⟩ := h.made
  · rw [hnone] at hmade
    cases hmade
  · rw [hone] at hmade
    cases hmade
    exact hphase

theorem does (h : x.Sound rules) (hdoes : Does rules n job x x' jobs) : x'.Sound rules := by
  cases hdoes with
  | waits | launchesNothing | confirmsNothing | cancels | keepsNothing | joined => exact h
  | withdrawn | left | announced => exact ⟨h.made, h.received, h.working⟩
  | negotiates =>
    refine ⟨h.made.imp_right ?_, h.received, h.working⟩
    rintro ⟨connection, hmade, hphase⟩
    exact ⟨connection, hmade, Negotiation.step_phase_of_reported hphase _⟩
  | refused hphase | late hphase =>
    exact ⟨.inl (h.made_of_settled hphase), h.received, h.working⟩
  | failed hphase =>
    have hmade := h.made_of_settled hphase
    have hreception := h.reception_of_settled hphase
    exact ⟨.inr ⟨_, by simp [hmade], rfl⟩, by simp [hreception], by simp⟩
  | launched hphase _ hcreate =>
    have hmade := h.made_of_settled hphase
    refine ⟨.inr ⟨_, by simp [hmade], rfl⟩, ?_, by simp⟩
    simpa [hmade] using hcreate
  | confirmed hstage =>
    refine ⟨h.made, fun reception hreception => ?_, fun _ => h.working (.inl hstage)⟩
    obtain ⟨hmade, hcreate, -⟩ := h.received reception hreception
    exact ⟨hmade, hcreate, .inr (.inl rfl)⟩
  | kept hstage =>
    refine ⟨h.made, fun reception hreception => ?_, by simp⟩
    obtain ⟨-, -, hnot⟩ := h.received reception hreception
    simp [hstage] at hnot
  | halted | released =>
    refine ⟨h.made, fun reception hreception => ?_, by simp⟩
    obtain ⟨hmade, hcreate, -⟩ := h.received reception hreception
    exact ⟨hmade, hcreate, .inr (.inr rfl)⟩
  | departed | signalled =>
    refine ⟨h.made, fun reception hreception => ?_, fun hstage => ?_⟩
    · obtain ⟨old, hold, rfl⟩ := Option.map_eq_some_iff.mp hreception
      exact h.received old hold
    · obtain ⟨reception, hreception⟩ := h.working hstage
      exact ⟨_, by rw [hreception]; rfl⟩

end Standing.Sound

/-- What is still to be done about a link fits where it stands. -/
structure Tended (n : Nat) (x : Standing) (jobs : Multiset Job) : Prop where
  launching : x.link.stage = .launching → .confirm n ∈ jobs
  pending : x.link.stage = .pending → .keep n ∈ jobs
  inForce : x.inForce = true →
    (x.link.stage = .pending ∨ x.link.stage = .negotiating) ∧ ¬ x.link.negotiation.IsReported ∨
      x.link.stage = .launching ∨ x.link.stage = .running ∨ .withdraw n ∈ jobs
  outOfForce : x.inForce = false →
    x.link.stage = .stopped ∨ .release n ∈ jobs ∨ .halt n ∈ jobs
  /-- The worker of a stopped link has ended, or is asked to stop. -/
  stopped : x.link.stage = .stopped → ∀ reception, x.link.reception = some reception →
    reception.exited = true ∨ reception.worker.signal.closed = true ∨ .signal n ∈ jobs ∨
      .depart n ∈ jobs
  exited : ∀ reception, x.link.reception = some reception → reception.exited = true →
    x.inForce = false
  /-- A worker that is done tells so. -/
  done : ∀ reception, x.link.reception = some reception → reception.worker.phase = .done →
    reception.exited = true ∨ .leave n ∈ jobs ∨ .depart n ∈ jobs
  withdraws : .withdraw n ∈ jobs →
    x.link.stage = .stopped ∧ x.link.reception = none ∧ x.link.negotiation.IsReported
  releases : .release n ∈ jobs → x.inForce = false
  halts : .halt n ∈ jobs → x.inForce = false ∧ x.link.negotiation.IsReported ∧
    ∀ reception, x.link.reception = some reception → reception.exited = true ∨ .depart n ∈ jobs
  departs : .depart n ∈ jobs → x.inForce = false ∧ x.link.reception ≠ none
  leaves : .leave n ∈ jobs → x.link.reception ≠ none

namespace Tended

/-- Another job than the one that is done is still to be done. -/
theorem mem_after {j : Job} (hne : j ≠ job) (h : j ∈ job ::ₘ beside) :
    j ∈ (↑jobs + beside : Multiset Job) :=
  Multiset.mem_add.mpr (.inr ((Multiset.mem_cons.mp h).resolve_left hne))

/-- A job that is not new was to be done before. -/
theorem mem_before {j : Job} (hnew : j ∉ jobs) (h : j ∈ (↑jobs + beside : Multiset Job)) :
    j ∈ job ::ₘ beside :=
  Multiset.mem_cons_of_mem ((Multiset.mem_add.mp h).resolve_left hnew)

theorem notMem_of_negotiationJobs {j : Job} (hj : j ∉ Registry.negotiationJobs n)
    (hjobs : ∀ job ∈ jobs, job ∈ Registry.negotiationJobs n) : j ∉ jobs :=
  fun hmem => hj (hjobs j hmem)

theorem notMem_endingJobs {j : Job}
    (hj : j ≠ .negotiate n (.reply .cancelled) ∧ j ≠ .signal n) (stage : LinkStage) :
    j ∉ Registry.endingJobs n stage := by
  cases stage <;> simp [Registry.endingJobs, hj]

variable (h : Tended n x (job ::ₘ beside)) (hdoes : Does rules n job x x' jobs)
include h hdoes

theorem launching_does (hstage : x'.link.stage = .launching) :
    .confirm n ∈ (↑jobs + beside : Multiset Job) := by
  cases hdoes with
  | waits => simpa using h.launching hstage
  | launched => simp
  | confirmsNothing hne => exact absurd hstage hne
  | failed | confirmed | kept | halted | released => cases hstage
  | _ => exact mem_after (by simp) (h.launching hstage)

theorem pending_does (hstage : x'.link.stage = .pending) :
    .keep n ∈ (↑jobs + beside : Multiset Job) := by
  cases hdoes with
  | waits => simpa using h.pending hstage
  | cancels hne => simp [hstage] at hne
  | keepsNothing hne => simp [hstage] at hne
  | failed | launched | confirmed | kept | halted | released => cases hstage
  | _ => exact mem_after (by simp) (h.pending hstage)

theorem inForce_does (hforce : x'.inForce = true) :
    (x'.link.stage = .pending ∨ x'.link.stage = .negotiating) ∧ ¬ x'.link.negotiation.IsReported ∨
      x'.link.stage = .launching ∨ x'.link.stage = .running ∨
      .withdraw n ∈ (↑jobs + beside : Multiset Job) := by
  cases hdoes with
  | waits => simpa using h.inForce hforce
  | refused | withdrawn | left => cases hforce
  | failed => simp
  | launched => exact .inr (.inl rfl)
  | confirmed => exact .inr (.inr (.inl rfl))
  | halted => simp [(h.halts (by simp)).1] at hforce
  | released => simp [h.releases (by simp)] at hforce
  | late _ hstage =>
    have hwithdraw : .withdraw n ∈ .launch n ::ₘ beside := by simpa [hstage] using h.inForce hforce
    exact .inr (.inr (.inr (mem_after (by simp) hwithdraw)))
  | kept hstage =>
    obtain ⟨-, hnot⟩ | hworks | hworks | hwithdraw := h.inForce hforce
    · exact .inl ⟨.inr rfl, hnot⟩
    · simp [hstage] at hworks
    · simp [hstage] at hworks
    · exact .inr (.inr (.inr (mem_after (by simp) hwithdraw)))
  | negotiates notReport =>
    rw [Negotiation.step_isReported_iff notReport]
    exact (h.inForce hforce).imp_right (Or.imp_right (Or.imp_right (mem_after (by simp))))
  | _ => exact (h.inForce hforce).imp_right (Or.imp_right (Or.imp_right (mem_after (by simp))))

theorem outOfForce_does (hforce : x'.inForce = false) : x'.link.stage = .stopped ∨
    .release n ∈ (↑jobs + beside : Multiset Job) ∨ .halt n ∈ (↑jobs + beside : Multiset Job) := by
  cases hdoes with
  | waits => simpa using h.outOfForce hforce
  | refused | left => simp
  | failed | halted | released => exact .inl rfl
  | withdrawn => exact .inl (h.withdraws (by simp)).1
  | launched _ hstage =>
    exact .inr (((h.outOfForce hforce).resolve_left hstage).imp (mem_after (by simp))
      (mem_after (by simp)))
  | confirmed hstage | kept hstage =>
    have hnot : ¬ x.link.stage = .stopped := by simp [hstage]
    exact .inr (((h.outOfForce hforce).resolve_left hnot).imp (mem_after (by simp))
      (mem_after (by simp)))
  | _ => exact (h.outOfForce hforce).imp_right (Or.imp (mem_after (by simp)) (mem_after (by simp)))

theorem stopped_does (hs : x.Sound rules) (hstage : x'.link.stage = .stopped)
    (reception : Reception) (hreception : x'.link.reception = some reception) :
    reception.exited = true ∨ reception.worker.signal.closed = true ∨
      .signal n ∈ (↑jobs + beside : Multiset Job) ∨ .depart n ∈ (↑jobs + beside : Multiset Job) := by
  cases hdoes with
  | waits => simpa using h.stopped hstage reception hreception
  | launched | confirmed | kept => cases hstage
  | failed hphase =>
    have hnone := hs.reception_of_settled hphase
    simp [hnone] at hreception
  | halted =>
    obtain hexited | hdepart := (h.halts (by simp)).2.2 reception hreception
    · exact .inl hexited
    · exact .inr (.inr (.inr (mem_after (by simp) hdepart)))
  | released hlaunching =>
    obtain ⟨-, -, hlaunched | hrunning | hstopped⟩ := hs.received reception hreception
    · exact absurd hlaunched hlaunching
    · simp [hrunning, Registry.endingJobs]
    · exact (h.stopped hstopped reception hreception).imp_right
        (Or.imp_right (Or.imp (mem_after (by simp)) (mem_after (by simp))))
  | departed =>
    obtain ⟨old, -, rfl⟩ := Option.map_eq_some_iff.mp hreception
    exact .inl rfl
  | signalled =>
    obtain ⟨old, -, rfl⟩ := Option.map_eq_some_iff.mp hreception
    exact .inr (.inl rfl)
  | _ =>
    exact (h.stopped hstage reception hreception).imp_right
      (Or.imp_right (Or.imp (mem_after (by simp)) (mem_after (by simp))))

theorem exited_does (reception : Reception) (hreception : x'.link.reception = some reception)
    (hexited : reception.exited = true) : x'.inForce = false := by
  cases hdoes with
  | refused | withdrawn | left => rfl
  | launched =>
    cases hreception
    cases hexited
  | departed => exact (h.departs (by simp)).1
  | signalled =>
    obtain ⟨old, hold, rfl⟩ := Option.map_eq_some_iff.mp hreception
    exact h.exited old hold hexited
  | _ => exact h.exited reception hreception hexited

theorem done_does (reception : Reception) (hreception : x'.link.reception = some reception)
    (hdone : reception.worker.phase = .done) : reception.exited = true ∨
      .leave n ∈ (↑jobs + beside : Multiset Job) ∨ .depart n ∈ (↑jobs + beside : Multiset Job) := by
  cases hdoes with
  | waits => simpa using h.done reception hreception hdone
  | launched =>
    cases hreception
    cases hdone
  | left => simp
  | departed =>
    obtain ⟨old, -, rfl⟩ := Option.map_eq_some_iff.mp hreception
    exact .inl rfl
  | signalled =>
    obtain ⟨old, hold, rfl⟩ := Option.map_eq_some_iff.mp hreception
    exact (h.done old hold hdone).imp_right (Or.imp (mem_after (by simp)) (mem_after (by simp)))
  | _ =>
    exact (h.done reception hreception hdone).imp_right
      (Or.imp (mem_after (by simp)) (mem_after (by simp)))

theorem withdraws_does (hs : x.Sound rules)
    (hwithdraw : .withdraw n ∈ (↑jobs + beside : Multiset Job)) :
    x'.link.stage = .stopped ∧ x'.link.reception = none ∧ x'.link.negotiation.IsReported := by
  cases hdoes with
  | waits => exact h.withdraws (by simpa using hwithdraw)
  | failed hphase => exact ⟨rfl, hs.reception_of_settled hphase, _, rfl⟩
  | negotiates notReport hjobs =>
    rw [Negotiation.step_isReported_iff notReport]
    have hnew : .withdraw n ∉ jobs :=
      notMem_of_negotiationJobs (by simp [Registry.negotiationJobs]) hjobs
    exact h.withdraws (mem_before hnew hwithdraw)
  | refused | late =>
    obtain ⟨hstage, hreception, -⟩ := h.withdraws (mem_before (by simp) hwithdraw)
    exact ⟨hstage, hreception, _, rfl⟩
  | launched _ hstage => exact absurd (h.withdraws (mem_before (by simp) hwithdraw)).1 hstage
  | confirmed hstage | kept hstage =>
    have hstopped := (h.withdraws (mem_before (by simp) hwithdraw)).1
    simp [hstage] at hstopped
  | halted =>
    obtain ⟨-, hreception, hreported⟩ := h.withdraws (mem_before (by simp) hwithdraw)
    exact ⟨rfl, hreception, hreported⟩
  | released =>
    obtain ⟨-, hreception, hreported⟩ :=
      h.withdraws (mem_before (notMem_endingJobs (by simp) x.link.stage) hwithdraw)
    exact ⟨rfl, hreception, hreported⟩
  | departed | signalled =>
    obtain ⟨hstage, hreception, hreported⟩ := h.withdraws (mem_before (by simp) hwithdraw)
    exact ⟨hstage, by simp [hreception], hreported⟩
  | left => exact h.withdraws (mem_before (by cases x.inForce <;> simp) hwithdraw)
  | _ => exact h.withdraws (mem_before (by simp) hwithdraw)

theorem releases_does (hrelease : .release n ∈ (↑jobs + beside : Multiset Job)) :
    x'.inForce = false := by
  cases hdoes with
  | waits => exact h.releases (by simpa using hrelease)
  | refused | withdrawn | left => rfl
  | negotiates _ hjobs =>
    have hnew : .release n ∉ jobs :=
      notMem_of_negotiationJobs (by simp [Registry.negotiationJobs]) hjobs
    exact h.releases (mem_before hnew hrelease)
  | released => exact h.releases (mem_before (notMem_endingJobs (by simp) x.link.stage) hrelease)
  | _ => exact h.releases (mem_before (by simp) hrelease)

theorem halts_does (hs : x.Sound rules) (hhalt : .halt n ∈ (↑jobs + beside : Multiset Job)) :
    x'.inForce = false ∧ x'.link.negotiation.IsReported ∧
      ∀ reception, x'.link.reception = some reception →
        reception.exited = true ∨ .depart n ∈ (↑jobs + beside : Multiset Job) := by
  cases hdoes with
  | waits => simpa using h.halts (by simpa using hhalt)
  | refused hphase =>
    exact ⟨rfl, ⟨_, rfl⟩, by simp [hs.reception_of_settled hphase]⟩
  | left =>
    obtain ⟨reception, hreception⟩ := Option.ne_none_iff_exists'.mp (h.leaves (by simp))
    exact ⟨rfl, ⟨_, hs.phase_of_reception hreception⟩, by simp⟩
  | negotiates notReport hjobs =>
    have hnew : .halt n ∉ jobs :=
      notMem_of_negotiationJobs (by simp [Registry.negotiationJobs]) hjobs
    obtain ⟨hforce, hreported, hworker⟩ := h.halts (mem_before hnew hhalt)
    exact ⟨hforce, (Negotiation.step_isReported_iff notReport).mpr hreported,
      fun reception hreception => (hworker reception hreception).imp_right (mem_after (by simp))⟩
  | late hphase | failed hphase | launched hphase =>
    obtain ⟨-, ⟨result, hreported⟩, -⟩ := h.halts (mem_before (by simp) hhalt)
    rw [hphase] at hreported
    cases hreported
  | released =>
    obtain ⟨hforce, hreported, hworker⟩ :=
      h.halts (mem_before (notMem_endingJobs (by simp) x.link.stage) hhalt)
    exact ⟨hforce, hreported,
      fun reception hreception => (hworker reception hreception).imp_right (mem_after (by simp))⟩
  | departed =>
    obtain ⟨hforce, hreported, -⟩ := h.halts (mem_before (by simp) hhalt)
    refine ⟨hforce, hreported, fun reception hreception => ?_⟩
    obtain ⟨old, -, rfl⟩ := Option.map_eq_some_iff.mp hreception
    exact .inl rfl
  | signalled =>
    obtain ⟨hforce, hreported, hworker⟩ := h.halts (mem_before (by simp) hhalt)
    refine ⟨hforce, hreported, fun reception hreception => ?_⟩
    obtain ⟨old, hold, rfl⟩ := Option.map_eq_some_iff.mp hreception
    exact (hworker old hold).imp_right (mem_after (by simp))
  | withdrawn =>
    obtain ⟨-, hreported, hworker⟩ := h.halts (mem_before (by simp) hhalt)
    exact ⟨rfl, hreported,
      fun reception hreception => (hworker reception hreception).imp_right (mem_after (by simp))⟩
  | _ =>
    obtain ⟨hforce, hreported, hworker⟩ := h.halts (mem_before (by simp) hhalt)
    exact ⟨hforce, hreported,
      fun reception hreception => (hworker reception hreception).imp_right (mem_after (by simp))⟩

theorem departs_does (hdepart : .depart n ∈ (↑jobs + beside : Multiset Job)) :
    x'.inForce = false ∧ x'.link.reception ≠ none := by
  cases hdoes with
  | waits => exact h.departs (by simpa using hdepart)
  | left => exact ⟨rfl, h.leaves (by simp)⟩
  | negotiates _ hjobs =>
    have hnew : .depart n ∉ jobs :=
      notMem_of_negotiationJobs (by simp [Registry.negotiationJobs]) hjobs
    exact h.departs (mem_before hnew hdepart)
  | released => exact h.departs (mem_before (notMem_endingJobs (by simp) x.link.stage) hdepart)
  | refused | withdrawn => exact ⟨rfl, (h.departs (mem_before (by simp) hdepart)).2⟩
  | launched => exact ⟨(h.departs (mem_before (by simp) hdepart)).1, Option.some_ne_none _⟩
  | departed | signalled =>
    obtain ⟨hforce, hreception⟩ := h.departs (mem_before (by simp) hdepart)
    exact ⟨hforce, by simpa using hreception⟩
  | _ => exact h.departs (mem_before (by simp) hdepart)

theorem leaves_does (hleave : .leave n ∈ (↑jobs + beside : Multiset Job)) :
    x'.link.reception ≠ none := by
  cases hdoes with
  | waits => exact h.leaves (by simpa using hleave)
  | negotiates _ hjobs =>
    have hnew : .leave n ∉ jobs :=
      notMem_of_negotiationJobs (by simp [Registry.negotiationJobs]) hjobs
    exact h.leaves (mem_before hnew hleave)
  | released => exact h.leaves (mem_before (notMem_endingJobs (by simp) x.link.stage) hleave)
  | left => exact h.leaves (by simp)
  | launched => exact Option.some_ne_none _
  | departed | signalled => simpa using h.leaves (mem_before (by simp) hleave)
  | _ => exact h.leaves (mem_before (by simp) hleave)

/-- **What is to be done about a link is kept by a job about it.** -/
theorem does (hs : x.Sound rules) : Tended n x' (↑jobs + beside) where
  launching := h.launching_does hdoes
  pending := h.pending_does hdoes
  inForce := h.inForce_does hdoes
  outOfForce := h.outOfForce_does hdoes
  stopped := h.stopped_does hdoes hs
  exited := h.exited_does hdoes
  done := h.done_does hdoes
  withdraws := h.withdraws_does hdoes hs
  releases := h.releases_does hdoes
  halts := h.halts_does hdoes hs
  departs := h.departs_does hdoes
  leaves := h.leaves_does hdoes

end Tended

/-! ## What a worker has been told -/

namespace Worker

variable {settings : ReceiverSettings} {w : Worker} {input : Input}

theorem onTick_flags : (w.onTick settings).hasOpened = w.hasOpened ∧
    (w.onTick settings).signal.closed = w.signal.closed := by
  unfold onTick
  repeat' split
  all_goals exact ⟨rfl, rfl⟩

theorem onOpened_flags (result : Except SourceError Unit) :
    ((w.onOpened settings result).hasOpened = true ↔ w.hasOpened = true ∨ result = .ok ()) ∧
      (w.onOpened settings result).signal.closed = w.signal.closed := by
  cases result with
  | ok _ => simp [onOpened, call]
  | error e => cases e <;> simp [onOpened, finish, push, call]

theorem onPolled_flags (result : Except SourceError Batch) :
    (w.onPolled settings result).hasOpened = w.hasOpened ∧
      (w.onPolled settings result).signal.closed = w.signal.closed := by
  unfold onPolled afterPoll takeBatch
  repeat' split
  all_goals exact ⟨rfl, rfl⟩

/-- A worker has opened its source since it was told so, while it waited for that. -/
theorem hasOpened_step : (w.step settings input).hasOpened = true ↔
    w.hasOpened = true ∨ input = .opened (.ok ()) ∧ w.phase = .opening := by
  cases input with
  | stop => simp [step]
  | tick => simp [step, onTick_flags]
  | opened result => by_cases hphase : w.phase = .opening <;> simp [step, hphase, onOpened_flags]
  | polled result => by_cases hphase : w.phase = .polling <;> simp [step, hphase, onPolled_flags]

/-- A worker has been asked to stop since it was told so. -/
theorem closed_step : (w.step settings input).signal.closed = true ↔
    w.signal.closed = true ∨ input = .stop := by
  cases input with
  | stop => simp [step]
  | tick => simp [step, onTick_flags]
  | opened result => by_cases hphase : w.phase = .opening <;> simp [step, hphase, onOpened_flags]
  | polled result => by_cases hphase : w.phase = .polling <;> simp [step, hphase, onPolled_flags]

end Worker

/-! ## All that can happen to a link -/

/-- What has been made for a link fits its negotiation, and what is to be done about it where it
stands. -/
structure Dossier.Upkeep (rules : RegistryRules) (n : Nat) (x : Dossier) : Prop where
  sound : x.standing.Sound rules
  tended : Tended n x.standing x.jobs

namespace Dossier.Upkeep

theorem fresh {x : Dossier} (h : x.IsFresh n) : x.Upkeep rules n := by
  obtain ⟨⟨hstage, hphase, hreception⟩, hforce, hmade, -, hjobs⟩ := h
  have hnot : ¬ x.standing.link.negotiation.IsReported := by simp [Negotiation.IsReported, hphase]
  refine ⟨⟨.inl hmade, by simp [hreception], by simp [hstage]⟩, ?_⟩
  constructor <;> simp [hstage, hreception, hforce, hjobs, hnot]

theorem does (h : Upkeep rules n ⟨x, job ::ₘ beside⟩) (hdoes : Does rules n job x x' jobs) :
    Upkeep rules n ⟨x', ↑jobs + beside⟩ :=
  ⟨h.sound.does hdoes, h.tended.does hdoes h.sound⟩

theorem answered (h : Upkeep rules n ⟨x, beside⟩) (answer : Option CredentialAnswer) :
    Upkeep rules n ⟨{ x with link.negotiation.answer := answer }, beside⟩ := by
  obtain ⟨hs, ht⟩ := h
  exact ⟨⟨hs.made, hs.received, hs.working⟩, ⟨ht.launching, ht.pending, ht.inForce, ht.outOfForce,
    ht.stopped, ht.exited, ht.done, ht.withdraws, ht.releases, ht.halts, ht.departs, ht.leaves⟩⟩

theorem parted (h : Upkeep rules n ⟨x, beside⟩) (joins : Bool) (service : Service) :
    Upkeep rules n ⟨{ x with inForce := false }, ↑(partingJobs joins n service) + beside⟩ := by
  obtain ⟨hs, ht⟩ := h
  have hafter : ∀ {j : Job}, j ∈ beside →
      j ∈ (↑(partingJobs joins n service) + beside : Multiset Job) :=
    fun hj => Multiset.mem_add.mpr (.inr hj)
  have hbefore : ∀ {j : Job}, j ∈ (↑(partingJobs joins n service) + beside : Multiset Job) →
      j ∉ partingJobs joins n service → j ∈ beside :=
    fun hj hnew => (Multiset.mem_add.mp hj).resolve_left hnew
  refine ⟨⟨hs.made, hs.received, hs.working⟩, ?_⟩
  constructor
  case launching => exact fun hstage => hafter (ht.launching hstage)
  case pending => exact fun hstage => hafter (ht.pending hstage)
  case inForce => exact nofun
  case outOfForce => exact fun _ => .inr (.inl (by simp [partingJobs]))
  case stopped =>
    exact fun hstage reception hreception =>
      (ht.stopped hstage reception hreception).imp_right (Or.imp_right (Or.imp hafter hafter))
  case exited => exact fun _ _ _ => rfl
  case done =>
    exact fun reception hreception hdone =>
      (ht.done reception hreception hdone).imp_right (Or.imp hafter hafter)
  case withdraws =>
    exact fun hj => ht.withdraws (hbefore hj (by cases joins <;> simp [partingJobs]))
  case releases => exact fun _ => rfl
  case halts =>
    intro hj
    obtain ⟨-, hreported, hworker⟩ := ht.halts (hbefore hj (by cases joins <;> simp [partingJobs]))
    exact ⟨rfl, hreported,
      fun reception hreception => (hworker reception hreception).imp_right hafter⟩
  case departs =>
    exact fun hj =>
      ⟨rfl, (ht.departs (hbefore hj (by cases joins <;> simp [partingJobs]))).2⟩
  case leaves => exact fun hj => ht.leaves (hbefore hj (by cases joins <;> simp [partingJobs]))

theorem fed (h : Upkeep rules n ⟨x, beside⟩) {reception : Reception} {worker : Worker}
    {settings : ReceiverSettings} {input : Input} (hreception : x.link.reception = some reception)
    (hworker : worker = reception.worker.step settings input) :
    Upkeep rules n ⟨{ x with link.reception := some { reception with worker } },
      ↑(if worker.phase = .done ∧ reception.worker.phase ≠ .done then [Job.leave n] else []) +
        beside⟩ := by
  obtain ⟨hs, ht⟩ := h
  have hne : x.link.reception ≠ none := by simp [hreception]
  generalize hspawned :
    (if worker.phase = .done ∧ reception.worker.phase ≠ .done then [Job.leave n] else []) = spawned
  have hafter : ∀ {j : Job}, j ∈ beside → j ∈ (↑spawned + beside : Multiset Job) :=
    fun hj => Multiset.mem_add.mpr (.inr hj)
  have hbefore : ∀ {j : Job}, j ∈ (↑spawned + beside : Multiset Job) → j ≠ .leave n → j ∈ beside := by
    intro j hj hleave
    refine (Multiset.mem_add.mp hj).resolve_left fun hmem => ?_
    rw [← hspawned] at hmem
    split at hmem <;> simp_all
  refine ⟨⟨hs.made, ?_, fun _ => ⟨_, rfl⟩⟩, ?_⟩
  · rintro _ ⟨⟩
    exact hs.received reception hreception
  constructor
  case launching => exact fun hstage => hafter (ht.launching hstage)
  case pending => exact fun hstage => hafter (ht.pending hstage)
  case inForce =>
    exact fun hforce => (ht.inForce hforce).imp_right (Or.imp_right (Or.imp_right hafter))
  case outOfForce => exact fun hforce => (ht.outOfForce hforce).imp_right (Or.imp hafter hafter)
  case stopped =>
    rintro hstage _ ⟨⟩
    refine (ht.stopped hstage reception hreception).imp_right (Or.imp ?_ (Or.imp hafter hafter))
    exact fun hstop => hworker ▸ Worker.closed_step.mpr (.inl hstop)
  case exited =>
    rintro _ ⟨⟩ hexited
    exact ht.exited reception hreception hexited
  case done =>
    rintro _ ⟨⟩ hdone
    by_cases hold : reception.worker.phase = .done
    · exact (ht.done reception hreception hold).imp_right (Or.imp hafter hafter)
    · have hleave : .leave n ∈ spawned := by
        rw [← hspawned, if_pos ⟨hdone, hold⟩]
        exact List.mem_singleton_self _
      exact .inr (.inl (Multiset.mem_add.mpr (.inl hleave)))
  case withdraws => exact fun hj => absurd (ht.withdraws (hbefore hj nofun)).2.1 hne
  case releases => exact fun hj => ht.releases (hbefore hj nofun)
  case halts =>
    intro hj
    obtain ⟨hforce, hreported, hold⟩ := ht.halts (hbefore hj nofun)
    refine ⟨hforce, hreported, ?_⟩
    rintro _ ⟨⟩
    exact (hold reception hreception).imp_right hafter
  case departs => exact fun hj => ⟨(ht.departs (hbefore hj nofun)).1, Option.some_ne_none _⟩
  case leaves => exact fun _ => Option.some_ne_none _

/-- **Whatever happens to a link keeps this.** -/
theorem step {x x' : Dossier} (hstep : x.Step rules n x') (h : x.Upkeep rules n) :
    x'.Upkeep rules n := by
  cases hstep with
  | does hdoes => exact h.does hdoes
  | parted joins => exact h.parted joins _
  | answered answer => exact h.answered _
  | fed hreception hworker => exact h.fed hreception hworker

end Dossier.Upkeep

/-- **What holds of every link in every run.** -/
theorem Registry.upkeep_run {actions : List Registry.Action} {x : Dossier}
    (hx : (Registry.run rules {} actions).dossier? n = some x) : x.Upkeep rules n :=
  Registry.dossier_induction (fun _ => Dossier.Upkeep.fresh) (fun _ _ => Dossier.Upkeep.step) hx

end LogIntake
