import LogIntake.Proofs.Registry.Rest

/-!
# What is told of a link

* `Dossier.farewells`: the ends of a link that have been told, are to be told, or will be because it is
  in force. There is never more than one.
* `Told`: a link is told to be connected before it is told to be disconnected.
* **`Dossier.Courtesy.step`**: both are kept by all that can happen to a link.
* **`Registry.farewell_once`**: a link that has been told to be connected is told to be disconnected
  exactly once when it has ended.
-/

namespace LogIntake

/-- The ends of a link that have been told, are to be told, or will be because it is in force. -/
def Dossier.farewells (x : Dossier) : Nat :=
  x.standing.inForce.toNat + x.jobs.countP (·.isFarewell) + x.standing.told.countP (·.isFarewell)

/-- The end of a link is to be told: its negotiation has not been reported, or it has had a worker. -/
def Standing.OwesFarewell (x : Standing) : Prop :=
  ¬ x.link.negotiation.IsReported ∨ x.link.reception ≠ none

/-- What is told first of a link: it has got a worker, and that has been confirmed. -/
def Link.greeting (n : Nat) (link : Link) : List RegistryEvent :=
  match link.stage with
  | .pending | .negotiating | .launching => []
  | .running => [.connected n link.service]
  | .stopped => if link.reception.isSome then [.connected n link.service] else []

/-- What has been told of a link: that it is connected, and then its ends. -/
structure Told (n : Nat) (x : Standing) (ends : List RegistryEvent) : Prop where
  told : x.told = x.link.greeting n ++ ends
  farewell : ∀ event ∈ ends, event.isFarewell = true
  stopped : ends ≠ [] → x.link.stage = .stopped

/-- What is told of a link, and is to be told of it. -/
structure Dossier.Courtesy (n : Nat) (x : Dossier) : Prop where
  le_one : x.farewells ≤ 1
  eq_one : x.standing.OwesFarewell → x.farewells = 1
  told : ∃ ends, Told n x.standing ends
  key : ∀ event, .announce event ∈ x.jobs ∨ event ∈ x.standing.told →
    event.service.key = x.standing.link.service.key

variable {rules : RegistryRules} {n : Nat} {job : Job} {x x' : Standing} {jobs : List Job}
  {beside : Multiset Job} {ends : List RegistryEvent}

/-! ## One farewell -/

/-- A job that tells the end of a link. -/
theorem exists_of_isFarewell (h : job.isFarewell = true) (hlink : job.link? = some n) :
    ∃ s, job = .announce (.disconnected n s) := by
  cases job with
  | announce event =>
    cases event with
    | connected => cases h
    | disconnected m s =>
      obtain rfl : m = n := Option.some_inj.mp hlink
      exact ⟨s, rfl⟩
  | _ => cases h

theorem Dossier.farewells_cons (x : Standing) (job : Job) (beside : Multiset Job) :
    Dossier.farewells ⟨x, job ::ₘ beside⟩ = x.inForce.toNat + job.isFarewell.toNat +
      beside.countP (·.isFarewell) + x.told.countP (·.isFarewell) := by
  have hcons : (job ::ₘ beside).countP (·.isFarewell) =
      job.isFarewell.toNat + beside.countP (·.isFarewell) := by
    cases hjob : job.isFarewell <;> simp [hjob, add_comm]
  show x.inForce.toNat + _ + _ = _
  rw [hcons, ← Nat.add_assoc]

theorem Dossier.farewells_add (x : Standing) (jobs : List Job) (beside : Multiset Job) :
    Dossier.farewells ⟨x, ↑jobs + beside⟩ = x.inForce.toNat + jobs.countP (·.isFarewell) +
      beside.countP (·.isFarewell) + x.told.countP (·.isFarewell) := by
  have hjobs : (jobs : Multiset Job).countP (·.isFarewell) = jobs.countP (·.isFarewell) := by simp
  show x.inForce.toNat + _ + _ = _
  rw [Multiset.countP_add, hjobs, ← Nat.add_assoc]

theorem countP_negotiationJobs (hjobs : ∀ job ∈ jobs, job ∈ Registry.negotiationJobs n) :
    jobs.countP (·.isFarewell) = 0 := by
  refine List.countP_eq_zero.mpr fun job hjob => ?_
  simp [Job.isFarewell, (Registry.of_mem_negotiationJobs (hjobs job hjob)).2.2.1]

theorem not_isReported_of_settled {result : NegotiationResult}
    (h : x.link.negotiation.phase = .settled result) : ¬ x.link.negotiation.IsReported := by
  rintro ⟨reported, hreported⟩
  cases h.symm.trans hreported

/-- A job changes the number of farewells only if none is owed any more. -/
theorem Does.farewells (hdoes : Does rules n job x x' jobs) (hs : x.Sound rules)
    (ht : Tended n x (job ::ₘ beside)) :
    Dossier.farewells ⟨x', ↑jobs + beside⟩ = Dossier.farewells ⟨x, job ::ₘ beside⟩ ∨
      ¬ x'.OwesFarewell ∧
        Dossier.farewells ⟨x', ↑jobs + beside⟩ ≤ Dossier.farewells ⟨x, job ::ₘ beside⟩ := by
  rw [Dossier.farewells_cons, Dossier.farewells_add]
  cases hdoes with
  | waits => exact .inl (by cases hjob : job.isFarewell <;> simp [hjob])
  | negotiates _ hjobs =>
    rw [countP_negotiationJobs hjobs]
    exact .inl rfl
  | refused hphase =>
    have hreception := hs.reception_of_settled hphase
    refine .inr ⟨fun h => h.elim (fun hnot => hnot ⟨_, rfl⟩) (· hreception), ?_⟩
    exact Nat.add_le_add_right (Nat.add_le_add_right (Nat.zero_le _) _) _
  | withdrawn =>
    obtain ⟨-, hreception, hreported⟩ := ht.withdraws (by simp)
    refine .inr ⟨fun h => h.elim (· hreported) (· hreception), ?_⟩
    exact Nat.add_le_add_right (Nat.add_le_add_right (Nat.zero_le _) _) _
  | left =>
    -- what was owed because the link was in force is now a job
    cases x.inForce <;> exact .inl rfl
  | released => cases x.link.stage <;> exact .inl rfl
  | @announced _ event _ hfarewell =>
    have hjob : (Job.announce event).isFarewell = true := hfarewell
    have htold : (x.told ++ [event]).countP (·.isFarewell) = x.told.countP (·.isFarewell) + 1 := by
      simp [hfarewell]
    left
    show x.inForce.toNat + 0 + _ + (x.told ++ [event]).countP _ = _
    rw [hjob, htold, Bool.toNat_true]
    omega
  | confirmed => exact .inl (by simp [List.countP_append]; rfl)
  | _ => exact .inl rfl

/-- A job after which a farewell is owed has found it so. -/
theorem Does.owesFarewell (hdoes : Does rules n job x x' jobs) (h : x'.OwesFarewell) :
    x.OwesFarewell := by
  cases hdoes with
  | refused hphase | late hphase | failed hphase | launched hphase =>
    exact .inl (not_isReported_of_settled hphase)
  | negotiates notReport =>
    exact h.imp_left (mt (Negotiation.step_isReported_iff notReport).mpr)
  | departed | signalled => exact h.imp_right fun hne => by simpa using hne
  | _ => exact h

/-! ## What is told -/

/-- A link without a worker has not been greeted. -/
theorem greeting_eq_nil (hs : x.Sound rules) (hreception : x.link.reception = none) :
    x.link.greeting n = [] := by
  have hnot : ¬ (x.link.stage = .launching ∨ x.link.stage = .running) := by
    intro hstage
    obtain ⟨reception, hsome⟩ := hs.working hstage
    cases hreception.symm.trans hsome
  cases hstage : x.link.stage <;> simp_all [Link.greeting]

/-- A link that is stopped has been greeted if it has been running. -/
theorem greeting_stopped (hs : x.Sound rules) (hlaunching : x.link.stage ≠ .launching) :
    { x.link with stage := .stopped }.greeting n = x.link.greeting n := by
  cases hreception : x.link.reception with
  | none =>
    rw [greeting_eq_nil hs hreception]
    simp [Link.greeting, hreception]
  | some reception =>
    obtain ⟨-, -, hstage | hstage | hstage⟩ := hs.received reception hreception
    · exact absurd hstage hlaunching
    · simp [Link.greeting, hstage, hreception]
    · simp [Link.greeting, hstage, hreception]

theorem of_mem_greeting (hs : x.Sound rules) {event : RegistryEvent}
    (h : event ∈ x.link.greeting n) : event = .connected n x.link.service ∧
      x.link.greeting n = [.connected n x.link.service] ∧ x.link.reception ≠ none := by
  have hreception : x.link.reception ≠ none := by
    intro hnone
    rw [greeting_eq_nil hs hnone] at h
    cases h
  have hgreeting : x.link.greeting n = [.connected n x.link.service] := by
    cases hstage : x.link.stage <;>
      simp_all [Link.greeting, Option.isSome_iff_ne_none]
  rw [hgreeting, List.mem_singleton] at h
  exact ⟨h, hgreeting, hreception⟩

/-- A change of the worker alone. -/
theorem greeting_map (link : Link) (f : Reception → Reception) :
    { link with reception := link.reception.map f }.greeting n = link.greeting n := by
  cases hstage : link.stage <;> simp [Link.greeting, hstage]

theorem Told.of_eq (h : x.told = x.link.greeting n) : Told n x [] :=
  ⟨by rw [h, List.append_nil], by simp, by simp⟩

/-- No end has been told of a link that has not been stopped. -/
theorem Told.eq_greeting (h : Told n x ends) (hstage : x.link.stage ≠ .stopped) :
    x.told = x.link.greeting n := by
  have hnone : ends = [] := by
    by_contra hne
    exact hstage (h.stopped hne)
  rw [h.told, hnone, List.append_nil]

/-- **A job about a link tells of it in order.** -/
theorem Told.does (h : Told n x ends) (hs : x.Sound rules) (hdoes : Does rules n job x x' jobs) :
    ∃ ends', Told n x' ends' := by
  cases hdoes with
  | failed hphase hstage | launched hphase hstage =>
    have hreception := hs.reception_of_settled hphase
    refine ⟨[], .of_eq ((h.eq_greeting hstage).trans ?_)⟩
    rw [greeting_eq_nil hs hreception]
    simp [Link.greeting, hreception]
  | confirmed hstage =>
    have hnot : x.link.stage ≠ .stopped := by simp [hstage]
    refine ⟨[], .of_eq ?_⟩
    show x.told ++ _ = _
    rw [h.eq_greeting hnot]
    simp [Link.greeting, hstage]
  | kept hstage =>
    have hnot : x.link.stage ≠ .stopped := by simp [hstage]
    refine ⟨[], .of_eq ((h.eq_greeting hnot).trans ?_)⟩
    simp [Link.greeting, hstage]
  | halted hstage | released hstage =>
    exact ⟨ends, h.told.trans (congrArg (· ++ ends) (greeting_stopped hs hstage).symm), h.farewell,
      fun _ => rfl⟩
  | departed | signalled =>
    exact ⟨ends, h.told.trans (congrArg (· ++ ends) (greeting_map _ _).symm), h.farewell, h.stopped⟩
  | @announced _ event _ hfarewell hstage =>
    refine ⟨ends ++ [event], ?_, ?_, fun _ => hstage⟩
    · show x.told ++ _ = _
      rw [h.told, List.append_assoc]
    · simpa [or_imp, forall_and, hfarewell] using h.farewell
  | _ => exact ⟨ends, h.told, h.farewell, h.stopped⟩

/-- The service of a link keeps its key in all that is told of it. -/
theorem Does.key (hdoes : Does rules n job x x' jobs)
    (h : ∀ event, .announce event ∈ job ::ₘ beside ∨ event ∈ x.told →
      event.service.key = x.link.service.key) :
    ∀ event, .announce event ∈ (↑jobs + beside : Multiset Job) ∨ event ∈ x'.told →
      event.service.key = x'.link.service.key := by
  rintro event hevent
  have hbeside : .announce event ∈ beside ∨ event ∈ x.told →
      event.service.key = x.link.service.key := fun hold =>
    h event (hold.imp_left Multiset.mem_cons_of_mem)
  rw [Multiset.mem_add, Multiset.mem_coe, or_assoc] at hevent
  cases hdoes with
  | waits => exact h event (by simpa [or_assoc] using hevent)
  | negotiates _ hjobs =>
    refine hevent.elim (fun hmem => ?_) hbeside
    have hnone := (Registry.of_mem_negotiationJobs (hjobs _ hmem)).2.2.1
    cases hnone
  | confirmed =>
    simp only [List.not_mem_nil, false_or, List.mem_append, List.mem_singleton, ← or_assoc] at hevent
    obtain hold | rfl := hevent
    · exact hbeside hold
    · rfl
  | left =>
    refine hevent.elim (fun hmem => ?_) hbeside
    cases hforce : x.inForce <;> simp [hforce] at hmem
    rw [hmem]
    rfl
  | released =>
    exact hevent.elim (fun hmem => by cases hstage : x.link.stage <;>
      simp [Registry.endingJobs, hstage] at hmem) hbeside
  | announced =>
    simp only [List.not_mem_nil, false_or, List.mem_append, List.mem_singleton, ← or_assoc] at hevent
    obtain hold | rfl := hevent
    · exact hbeside hold
    · exact h event (.inl (Multiset.mem_cons_self _ _))
  | _ => exact hbeside (by simpa using hevent)

namespace Dossier.Courtesy

theorem fresh {x : Dossier} (h : x.IsFresh n) : x.Courtesy n := by
  have hone : x.farewells = 1 := by
    simp [farewells, h.inForce, h.jobs, h.told, Job.isFarewell, Job.event?]
  refine ⟨hone.le, fun _ => hone, ⟨[], .of_eq ?_⟩, ?_⟩
  · simp [h.told, Link.greeting, h.link.stage]
  · simp [h.told, h.jobs]

theorem does (h : Courtesy n ⟨x, job ::ₘ beside⟩) (hs : x.Sound rules)
    (ht : Tended n x (job ::ₘ beside)) (hdoes : Does rules n job x x' jobs) :
    Courtesy n ⟨x', ↑jobs + beside⟩ := by
  obtain ⟨ends, htold⟩ := h.told
  refine ⟨?_, fun howes => ?_, htold.does hs hdoes, hdoes.key h.key⟩
  · obtain heq | ⟨-, hle⟩ := hdoes.farewells hs ht
    · exact heq.trans_le h.le_one
    · exact hle.trans h.le_one
  · obtain heq | ⟨hnot, -⟩ := hdoes.farewells hs ht
    · exact heq.trans (h.eq_one (hdoes.owesFarewell howes))
    · exact absurd howes hnot

/-- **Whatever happens to a link keeps this.** -/
theorem step {x x' : Dossier} (hstep : x.Step rules n x') (hu : x.Upkeep rules n)
    (h : x.Courtesy n) : x'.Courtesy n := by
  cases hstep with
  | does hdoes => exact h.does hu.sound hu.tended hdoes
  | @parted x jobs joins service hforce hkey =>
    obtain ⟨ends, htold⟩ := h.told
    have hsame : farewells ⟨{ x with inForce := false }, ↑(partingJobs joins n service) + jobs⟩ =
        farewells ⟨x, jobs⟩ := by
      rw [farewells_add]
      cases joins <;> simp [farewells, hforce, partingJobs, Job.isFarewell] <;> rfl
    refine ⟨hsame.trans_le h.le_one, fun howes => hsame.trans (h.eq_one howes),
      ⟨ends, htold.told, htold.farewell, htold.stopped⟩, fun event hevent => ?_⟩
    rw [Multiset.mem_add, or_assoc] at hevent
    obtain hnew | hold := hevent
    · obtain rfl : event = .disconnected n service := by
        cases joins <;> simpa [partingJobs] using hnew
      exact hkey
    · exact h.key event hold
  | answered answer =>
    obtain ⟨ends, htold⟩ := h.told
    exact ⟨h.le_one, h.eq_one, ⟨ends, htold.told, htold.farewell, htold.stopped⟩, h.key⟩
  | @fed x jobs reception worker _ _ hreception =>
    obtain ⟨ends, htold⟩ := h.told
    generalize hspawned :
      (if worker.phase = .done ∧ reception.worker.phase ≠ .done then [Job.leave n] else []) = spawned
    have hleave : ∀ job ∈ spawned, job = .leave n := by
      rw [← hspawned]
      split <;> simp
    have hnone : spawned.countP (·.isFarewell) = 0 :=
      List.countP_eq_zero.mpr fun job hjob => by simp [hleave job hjob, Job.isFarewell, Job.event?]
    have hsame : farewells ⟨{ x with link.reception := some { reception with worker } },
        ↑spawned + jobs⟩ = farewells ⟨x, jobs⟩ := by
      rw [farewells_add, hnone]
      rfl
    have howes : x.OwesFarewell := .inr (by simp [hreception])
    refine ⟨hsame.trans_le h.le_one, fun _ => hsame.trans (h.eq_one howes),
      ⟨ends, ?_, htold.farewell, htold.stopped⟩, fun event hevent => h.key event ?_⟩
    · refine htold.told.trans (congrArg (· ++ ends) ?_)
      cases hstage : x.link.stage <;> simp [Link.greeting, hstage, hreception]
    · refine hevent.imp_left fun hmem => (Multiset.mem_add.mp hmem).resolve_left fun hnew => ?_
      cases hleave _ hnew

/-- **What has been told of a link begins with its only connection.** All else are ends, and at most one
of them has been told, is to be told, or will be because the link is in force. -/
theorem of_connected {x : Dossier} (h : x.Courtesy n) (hs : x.standing.Sound rules) {s : Service}
    (hconnected : .connected n s ∈ x.standing.told) :
    ∃ ends, x.standing.told = .connected n s :: ends ∧ x.standing.link.reception ≠ none ∧
      (∀ event ∈ ends, event.isFarewell = true ∧ event.service.key = s.key) ∧
      x.standing.inForce.toNat + x.jobs.countP (·.isFarewell) + ends.length = 1 := by
  obtain ⟨ends, htold⟩ := h.told
  have hmem : .connected n s ∈ x.standing.link.greeting n := by
    rw [htold.told, List.mem_append] at hconnected
    exact hconnected.resolve_right fun hend => nomatch htold.farewell _ hend
  obtain ⟨heq, hgreeting, hreception⟩ := of_mem_greeting hs hmem
  obtain ⟨-, rfl⟩ := RegistryEvent.connected.inj heq
  have htoldEq := htold.told
  rw [hgreeting, List.singleton_append] at htoldEq
  refine ⟨ends, htoldEq, hreception, fun event hevent => ⟨htold.farewell event hevent, ?_⟩, ?_⟩
  · exact h.key event (.inr (htoldEq ▸ List.mem_cons_of_mem _ hevent))
  · have hends : ends.countP (·.isFarewell) = ends.length := List.countP_eq_length.mpr htold.farewell
    have hone : x.farewells = 1 := h.eq_one (.inr hreception)
    rwa [farewells, htoldEq, List.countP_cons_of_neg (by simp [RegistryEvent.isFarewell]), hends]
      at hone

end Dossier.Courtesy

namespace Registry

variable {r : Registry}

/-- **What has been told and is to be told of every link in every run.** -/
theorem courtesy_run {actions : List Action} {x : Dossier}
    (hx : (run rules {} actions).dossier? n = some x) : x.Courtesy n := by
  have hboth : x.Upkeep rules n ∧ x.Courtesy n :=
    dossier_induction (P := fun x => x.Upkeep rules n ∧ x.Courtesy n)
      (fun _ hfresh => ⟨.fresh hfresh, .fresh hfresh⟩)
      (fun _ _ hstep h => ⟨h.1.step hstep, h.2.step hstep h.1⟩) hx
  exact hboth.2

/-- A link has ended: it is out of force, it has been stopped, or its worker has ended and told so. -/
inductive HasEnded (r : Registry) (n : Nat) : Prop
  | outOfForce (h : r.isCurrent n = false)
  | stopped (h : r.IsStopped n)
  | worker {link : Link} {reception : Reception} (hlink : r.links[n]? = some link)
      (hreception : link.reception = some reception) (hdone : reception.worker.phase = .done)
      (htold : .leave n ∉ r.jobs)

/-- A link that has had a worker is out of force when it has ended. -/
theorem HasEnded.isCurrent {actions : List Action} {link : Link}
    (h : (run rules {} actions).HasEnded n)
    (hlink : (run rules {} actions).links[n]? = some link) (hreception : link.reception ≠ none) :
    (run rules {} actions).isCurrent n = false := by
  obtain ⟨hs, ht⟩ := upkeep_of_link hlink
  cases h with
  | outOfForce h => exact h
  | stopped hstopped =>
    obtain ⟨link', hlink', hstage⟩ := hstopped
    obtain rfl : link' = link := Option.some_inj.mp (hlink'.symm.trans hlink)
    rw [← Bool.not_eq_true]
    intro hforce
    obtain ⟨h | h, -⟩ | h | h | h := ht.inForce hforce
    · cases hstage.symm.trans h
    · cases hstage.symm.trans h
    · cases hstage.symm.trans h
    · cases hstage.symm.trans h
    · exact hreception (ht.withdraws h).2.1
  | @worker link' reception hlink' hsome hdone hleave =>
    obtain rfl : link' = link := Option.some_inj.mp (hlink'.symm.trans hlink)
    obtain hexited | h | h := ht.done reception hsome hdone
    · exact ht.exited reception hsome hexited
    · exact absurd (List.mem_of_mem_filter (Multiset.mem_coe.mp h)) hleave
    · exact (ht.departs h).1

/-- The dossier of a link that has been told to be connected. -/
theorem exists_ends {actions : List Action} {s : Service}
    (h : .connected n s ∈ (run rules {} actions).events) :
    ∃ link ends, (run rules {} actions).links[n]? = some link ∧ link.reception ≠ none ∧
      (run rules {} actions).toldOf n = .connected n s :: ends ∧
      (∀ event ∈ ends, ∃ s', s'.key = s.key ∧ event = .disconnected n s') ∧
      ((run rules {} actions).isCurrent n).toNat +
        ((run rules {} actions).jobs.filter (·.link? = some n)).countP (·.isFarewell) +
        ends.length = 1 := by
  have hlt : n < (run rules {} actions).links.length := (roster_run rules actions).told _ h
  have hlink := List.getElem?_eq_getElem hlt
  have hmem : .connected n s ∈ (run rules {} actions).toldOf n :=
    List.mem_filter.mpr ⟨h, by simp [RegistryEvent.link]⟩
  obtain ⟨ends, htold, hreception, hends, hone⟩ :=
    (courtesy_run (dossier?_eq hlink)).of_connected (upkeep_of_link hlink).1 hmem
  have htold : (run rules {} actions).toldOf n = .connected n s :: ends := htold
  rw [Multiset.coe_countP] at hone
  refine ⟨_, ends, hlink, hreception, htold, fun event hevent => ?_, by simpa [standing] using hone⟩
  have htoldEvent : event ∈ (run rules {} actions).toldOf n :=
    htold ▸ List.mem_cons_of_mem _ hevent
  have hnumber : event.link = n := by simpa using (List.mem_filter.mp htoldEvent).2
  obtain ⟨hfarewell, hkey⟩ := hends event hevent
  cases event with
  | connected => cases hfarewell
  | disconnected m s' => exact ⟨s', hkey, congrArg (RegistryEvent.disconnected · s') hnumber⟩

/-- **A link that has been told to be connected is told to be disconnected once**, after that, under the
same key: at most once at any time, and exactly once when the link has ended and nobody is about to tell
so. -/
theorem farewell_once {actions : List Action} {s : Service}
    (h : .connected n s ∈ (run rules {} actions).events) :
    let r := run rules {} actions
    (r.toldOf n = [.connected n s] ∨
      ∃ s', s'.key = s.key ∧ r.toldOf n = [.connected n s, .disconnected n s']) ∧
    (r.HasEnded n → (∀ s', .announce (.disconnected n s') ∉ r.jobs) →
      ∃ s', s'.key = s.key ∧ r.toldOf n = [.connected n s, .disconnected n s']) := by
  intro r
  obtain ⟨link, ends, hlink, hreception, htold, hends, hone⟩ := exists_ends h
  have hcases : ends = [] ∨ ∃ s', s'.key = s.key ∧ ends = [.disconnected n s'] := by
    match ends with
    | [] => exact .inl rfl
    | [event] =>
      obtain ⟨s', hkey, rfl⟩ := hends event (List.mem_singleton_self event)
      exact .inr ⟨s', hkey, rfl⟩
    | _ :: _ :: _ => simp only [List.length_cons] at hone; omega
  refine ⟨?_, fun hended hquiet => ?_⟩
  · obtain rfl | ⟨s', hkey, rfl⟩ := hcases
    · exact .inl htold
    · exact .inr ⟨s', hkey, htold⟩
  · have hforce : r.isCurrent n = false := hended.isCurrent hlink hreception
    have hjobs : (r.jobs.filter (·.link? = some n)).countP (·.isFarewell) = 0 := by
      refine List.countP_eq_zero.mpr fun job hjob hfarewell => ?_
      obtain ⟨hmem, hlink⟩ := List.mem_filter.mp hjob
      obtain ⟨s', rfl⟩ := exists_of_isFarewell hfarewell (of_decide_eq_true hlink)
      exact hquiet s' hmem
    obtain rfl | ⟨s', hkey, rfl⟩ := hcases
    · rw [hforce, hjobs] at hone
      cases hone
    · exact ⟨s', hkey, htold⟩

/-- A file whose worker ends before the link is confirmed. -/
def earlyExit : List Action :=
  .call (.connect (.manual "app" { uri := "/log" })) :: List.replicate 4 (.advance 0) ++
    [.source 0 .tick, .source 0 (.opened (.error .closed)), .advance 1, .advance 1, .advance 0,
      .advance 0, .advance 1, .advance 1, .advance 1]

/-- The end of the worker is told after the connection. -/
theorem farewell_once_earlyExit :
    .connected 0 (.manual "app") ∈ (run plainRules {} earlyExit).events ∧
      ∃ s', s'.key = (Service.manual "app").key ∧ (run plainRules {} earlyExit).toldOf 0 =
        [.connected 0 (.manual "app"), .disconnected 0 s'] := by
  have hconnected : .connected 0 (.manual "app") ∈ (run plainRules {} earlyExit).events := by
    decide +kernel
  have hforce : (run plainRules {} earlyExit).isCurrent 0 = false := by decide +kernel
  have hjobs : (run plainRules {} earlyExit).jobs = [] := List.isEmpty_iff.mp (by decide +kernel)
  exact ⟨hconnected, (farewell_once hconnected).2 (.outOfForce hforce) (by simp [hjobs])⟩

end Registry

end LogIntake
