import LogIntake.Proofs.Registry.Order

/-!
# What a registry does with one link

* `Standing`: a link, whether it is in force, the sources that were to be made for it and what has been
  told of it; `Dossier`: the standing of a link and the jobs about it.
* `Does`: all that a job does to the link that it is about.
* `Dossier.Step`: all that can happen to a link.
* **`Registry.perform_obeys`**: a job about a link does one of these things to it, and nothing to others.
-/

namespace LogIntake

/-- What there is about a link. -/
structure Standing where
  link : Link
  inForce : Bool
  /-- The connections of the sources that were to be made for it. -/
  made : List Connection
  /-- What has been told of it. -/
  told : List RegistryEvent

/-- What there is about a link and is still to be done about it. -/
structure Dossier where
  standing : Standing
  jobs : Multiset Job

/-- The jobs that end a link which has been taken out of force. Its worker may be waited for. -/
def partingJobs (joins : Bool) (n : Nat) (service : Service) : List Job :=
  .release n :: (if joins then [.join n] else []) ++ [.announce (.disconnected n service)]

/-- What a job does to the link that it is about: its standing before and after, and the jobs that are
still to be done. -/
inductive Does (rules : RegistryRules) (n : Nat) : Job → Standing → Standing → List Job → Prop
  /-- The job has to wait. -/
  | waits {job : Job} {x : Standing} (h : job.link? = some n) : Does rules n job x x [job]
  /-- The negotiation goes on. -/
  | negotiates {action performed : NegotiationAction} {x : Standing} {cache : CredentialCache}
      {jobs : List Job} (notReport : performed ≠ .report)
      (hjobs : ∀ job ∈ jobs, job ∈ Registry.negotiationJobs n) :
      Does rules n (.negotiate n action) x
        { x with link.negotiation :=
            (x.link.negotiation.step rules.negotiation cache performed).2 } jobs
  /-- There is no result to go on with. -/
  | launchesNothing {x : Standing} (h : x.link.negotiation.result? = none) :
      Does rules n (.launch n) x x []
  /-- The negotiation has failed. -/
  | refused {x : Standing} {e : NegotiationError}
      (h : x.link.negotiation.phase = .settled (.error e)) :
      Does rules n (.launch n) x
        { x with link.negotiation.phase := .reported (.error e), inForce := false } [.halt n]
  /-- The negotiation has succeeded too late. -/
  | late {x : Standing} {connection : Connection}
      (h : x.link.negotiation.phase = .settled (.ok connection)) (hstage : x.link.stage = .stopped) :
      Does rules n (.launch n) x { x with link.negotiation.phase := .reported (.ok connection) } []
  /-- The source cannot be made. -/
  | failed {x : Standing} {connection : Connection} {reason : String}
      (h : x.link.negotiation.phase = .settled (.ok connection)) (hstage : x.link.stage ≠ .stopped)
      (hcreate : rules.create x.link.service.key.name x.link.plan.kind connection = .error reason) :
      Does rules n (.launch n) x
        { x with
          link.negotiation.phase := .reported (.ok connection)
          link.stage := .stopped
          made := x.made ++ [connection] } [.withdraw n]
  /-- The link gets a worker. -/
  | launched {x : Standing} {connection : Connection}
      (h : x.link.negotiation.phase = .settled (.ok connection)) (hstage : x.link.stage ≠ .stopped)
      (hcreate : rules.create x.link.service.key.name x.link.plan.kind connection = .ok ()) :
      Does rules n (.launch n) x
        { x with
          link.negotiation.phase := .reported (.ok connection)
          link.stage := .launching
          link.reception := some { connection, worker := { decoder := x.link.decoder } }
          made := x.made ++ [connection] } [.confirm n]
  | confirmed {x : Standing} (h : x.link.stage = .launching) :
      Does rules n (.confirm n) x
        { x with link.stage := .running, told := x.told ++ [.connected n x.link.service] } []
  | confirmsNothing {x : Standing} (h : x.link.stage ≠ .launching) : Does rules n (.confirm n) x x []
  | kept {x : Standing} (h : x.link.stage = .pending) :
      Does rules n (.keep n) x { x with link.stage := .negotiating } []
  /-- The link has been stopped before it could be cancelled. -/
  | cancels {x : Standing} (h : x.link.stage = .stopped) :
      Does rules n (.keep n) x x [.negotiate n (.reply .cancelled)]
  | keepsNothing {x : Standing} (h : x.link.stage = .negotiating ∨ x.link.stage = .running) :
      Does rules n (.keep n) x x []
  | withdrawn {x : Standing} : Does rules n (.withdraw n) x { x with inForce := false } []
  | halted {x : Standing} (h : x.link.stage ≠ .launching) :
      Does rules n (.halt n) x { x with link.stage := .stopped } []
  /-- The worker has ended. -/
  | left {x : Standing} :
      Does rules n (.leave n) x { x with inForce := false }
        (.halt n :: (if x.inForce then [.announce (.disconnected n x.link.service)] else []) ++
          [.depart n])
  | departed {x : Standing} :
      Does rules n (.depart n) x
        { x with link.reception := x.link.reception.map ({ · with exited := true }) } []
  | released {x : Standing} (h : x.link.stage ≠ .launching) :
      Does rules n (.release n) x { x with link.stage := .stopped }
        (Registry.endingJobs n x.link.stage)
  | signalled {x : Standing} :
      Does rules n (.signal n) x
        { x with link.reception :=
            x.link.reception.map fun reception =>
              { reception with
                worker := { reception.worker with signal := reception.worker.signal.close } } } []
  | joined {x : Standing} : Does rules n (.join n) x x []
  | announced {x : Standing} {event : RegistryEvent} (hevent : event.link = n)
      (hfarewell : event.isFarewell) (h : x.link.stage = .stopped) :
      Does rules n (.announce event) x { x with told := x.told ++ [event] } []

/-- What can happen to a link: a job about it is done, it is taken out of force by a job about its key
or all links, its prompt is answered, or something happens to its worker. -/
inductive Dossier.Step (rules : RegistryRules) (n : Nat) : Dossier → Dossier → Prop
  | does {job : Job} {x x' : Standing} {jobs : List Job} {beside : Multiset Job}
      (h : Does rules n job x x' jobs) : Step rules n ⟨x, job ::ₘ beside⟩ ⟨x', ↑jobs + beside⟩
  | parted {x : Standing} {jobs : Multiset Job} (joins : Bool) {service : Service}
      (inForce : x.inForce = true) (hkey : service.key = x.link.service.key) :
      Step rules n ⟨x, jobs⟩ ⟨{ x with inForce := false }, ↑(partingJobs joins n service) + jobs⟩
  | answered {x : Standing} {jobs : Multiset Job} (answer : CredentialAnswer) :
      Step rules n ⟨x, jobs⟩
        ⟨{ x with link.negotiation.answer := x.link.negotiation.answer.or (some answer) }, jobs⟩
  | fed {x : Standing} {jobs : Multiset Job} {reception : Reception} {worker : Worker}
      {settings : ReceiverSettings} {input : Input} (h : x.link.reception = some reception)
      (hworker : worker = reception.worker.step settings input) :
      Step rules n ⟨x, jobs⟩
        ⟨{ x with link.reception := some { reception with worker } },
          ↑(if worker.phase = .done ∧ reception.worker.phase ≠ .done then [Job.leave n] else []) +
            jobs⟩

section InForce

variable {rules : RegistryRules} {n : Nat}

theorem Does.inForce {job : Job} {x x' : Standing} {jobs : List Job} (hdoes : Does rules n job x x' jobs)
    (h : x'.inForce = true) : x.inForce = true := by
  cases hdoes with
  | refused | withdrawn | left => cases h
  | _ => exact h

/-- A link that is out of force remains so. -/
theorem Dossier.Step.inForce {x x' : Dossier} (hstep : x.Step rules n x')
    (h : x'.standing.inForce = true) : x.standing.inForce = true := by
  cases hstep with
  | does hdoes => exact hdoes.inForce h
  | parted => cases h
  | answered | fed => exact h

end InForce

namespace Negotiation

variable {rules : NegotiationRules} {cache : CredentialCache} {negotiation : Negotiation}
  {result : NegotiationResult}

theorem phase_of_result? (h : negotiation.result? = some result) :
    negotiation.phase = .settled result := by
  unfold result? at h
  split at h
  · rename_i hphase
    rw [hphase, Option.some_inj.mp h]
  · cases h

theorem step_report (h : negotiation.phase = .settled result) :
    negotiation.step rules cache .report = (cache, { negotiation with phase := .reported result }) := by
  simp [step, h]

/-- A negotiation that waits for an answer and finds none is as it was. -/
theorem step_take_waiting (h : negotiation.phase = .waiting)
    (hafter : (negotiation.step rules cache .take).2.phase = .waiting) :
    (negotiation.step rules cache .take).2 = negotiation := by
  cases hanswer : negotiation.answer with
  | none => simp [step, h, hanswer]
  | some answer => simp [step, h, hanswer] at hafter

end Negotiation

namespace Registry

variable {rules : RegistryRules} {r r' : Registry} {k n : Nat} {link link' : Link} {job : Job}

/-- The connections of the sources that were to be made for a link. -/
def madeFor (r : Registry) (n : Nat) : List Connection :=
  (r.creations.filter (·.1 = n)).map (·.2)

/-- What has been told of a link. -/
def toldOf (r : Registry) (n : Nat) : List RegistryEvent := r.events.filter (·.link = n)

/-- The standing of a link in a registry. -/
def standing (r : Registry) (n : Nat) (link : Link) : Standing where
  link
  inForce := r.isCurrent n
  made := r.madeFor n
  told := r.toldOf n

/-- What a registry has about a link, if there is one of that number. -/
def dossier? (r : Registry) (n : Nat) : Option Dossier :=
  (r.links[n]?).map fun link => ⟨r.standing n link, ↑(r.jobs.filter (·.link? = some n))⟩

theorem dossier?_eq (hlink : r.links[n]? = some link) :
    r.dossier? n = some ⟨r.standing n link, ↑(r.jobs.filter (·.link? = some n))⟩ := by
  rw [dossier?, hlink]
  rfl

theorem mem_of_dossier? {x : Dossier} (hx : r.dossier? n = some x) (hjob : job ∈ x.jobs) :
    job ∈ r.jobs := by
  obtain ⟨link, -, rfl⟩ := Option.map_eq_some_iff.mp hx
  exact List.mem_of_mem_filter (Multiset.mem_coe.mp hjob)

theorem mem_dossier?_jobs {x : Dossier} (hx : r.dossier? n = some x) (hlink : job.link? = some n)
    (hjob : job ∈ r.jobs) : job ∈ x.jobs := by
  obtain ⟨link, -, rfl⟩ := Option.map_eq_some_iff.mp hx
  exact Multiset.mem_coe.mpr (List.mem_filter.mpr ⟨hjob, by simpa using hlink⟩)

theorem standing_setLink (r : Registry) (k : Nat) (f : Link → Link) (link : Link) :
    (r.setLink k f).standing n link = r.standing n link := rfl

theorem standing_make (r : Registry) (n : Nat) (link : Link) (connection : Connection) :
    (r.make n connection).standing n link =
      { r.standing n link with made := (r.standing n link).made ++ [connection] } := by
  simp [standing, isCurrent, madeFor, toldOf, make]

theorem standing_tell (r : Registry) (link : Link) {event : RegistryEvent} (h : event.link = n) :
    (r.tell event).standing n link =
      { r.standing n link with told := (r.standing n link).told ++ [event] } := by
  simp [standing, isCurrent, madeFor, toldOf, tell, h]

theorem standing_dropLink (r : Registry) (n : Nat) (link : Link) :
    (r.dropLink n).standing n link = { r.standing n link with inForce := false } := by
  simp [standing, isCurrent, madeFor, toldOf, dropLink]

theorem SameBut.standing (h : SameBut k r r') (hn : n ≠ k) (link : Link) :
    r'.standing n link = r.standing n link := by
  obtain ⟨made, hmade⟩ := h.creations
  obtain ⟨told, htold, hlinks⟩ := h.events
  have hnomade : (made.map (k, ·)).filter (·.1 = n) = [] := by simp [Ne.symm hn]
  have hnotold : told.filter (·.link = n) = [] := by
    rw [List.filter_eq_nil_iff]
    intro event hevent
    simpa [hlinks event hevent] using Ne.symm hn
  simp only [Registry.standing, madeFor, toldOf, h.isCurrent hn, hmade, htold, List.filter_append,
    hnomade, hnotold, List.append_nil]

end Registry

/-- The outcome of a job about a link: no other link is touched, and the job does one of the things
that jobs do. -/
structure Outcome.Obeys (rules : RegistryRules) (r : Registry) (k : Nat) (link : Link) (job : Job)
    (o : Outcome) : Prop where
  same : Registry.SameBut k r o.registry
  does : ∃ link', o.registry.links[k]? = some link' ∧
    Does rules k job (r.standing k link) (o.registry.standing k link') (o.next ++ o.spawned.flatten)
  spawned : ∀ jobs ∈ o.spawned, jobs = Registry.negotiationJobs k

namespace Registry

variable {rules : RegistryRules} {r r' : Registry} {k n : Nat} {link link' : Link}

/-- A job that spawns no task. -/
theorem obeys_of {o : Outcome} {job : Job} {x : Standing} (hsame : SameBut k r o.registry)
    (hlink : o.registry.links[k]? = some link') (hx : o.registry.standing k link' = x)
    (hdoes : Does rules k job (r.standing k link) x o.next) (hspawned : o.spawned = []) :
    o.Obeys rules r k link job where
  same := hsame
  does := ⟨link', hlink, by rwa [hspawned, List.flatten_nil, List.append_nil, hx]⟩
  spawned := by simp [hspawned]

/-- A job that changes nothing else than the link. -/
theorem obeys_setLink (hlink : r.links[k]? = some link) {f : Link → Link} {job : Job}
    {next : List Job} (hservice : (f link).service = link.service)
    (hstage : link.stage = .stopped → (f link).stage = .stopped)
    (hdoes : Does rules k job (r.standing k link) { r.standing k link with link := f link } next) :
    Outcome.Obeys rules r k link job { registry := r.setLink k f, next } :=
  obeys_of ((SameBut.refl k r).setLink hlink hservice hstage) (links_setLink hlink f) rfl hdoes rfl

/-- A job that changes nothing. -/
theorem obeys_self (hlink : r.links[k]? = some link) {job : Job} {next : List Job}
    (hdoes : Does rules k job (r.standing k link) (r.standing k link) next) :
    Outcome.Obeys rules r k link job { registry := r, next } :=
  obeys_of (.refl k r) hlink rfl hdoes rfl

/-- A job that looks at the stage of a link has to wait while the link is launched. -/
theorem obeys_whenFree (hlink : r.links[k]? = some link) {job : Job} (hjob : job.link? = some k)
    {act : Link → Outcome}
    (hact : link.stage ≠ .launching → (act link).Obeys rules r k link job) :
    (r.whenFree k job act).Obeys rules r k link job := by
  rw [whenFree, hlink]
  by_cases hstage : link.stage = .launching
  · simp only [if_pos hstage]
    exact obeys_self hlink (.waits hjob)
  · simp only [if_neg hstage]
    exact hact hstage

/-- **Negotiating.** If no worker can be started, a task begins in another way than it was to. -/
theorem negotiateLink_obeys (hlink : r.links[k]? = some link) {action performed : NegotiationAction}
    (notReport : performed ≠ .report) :
    (r.negotiateLink rules k link performed).Obeys rules r k link (.negotiate k action) := by
  have hsame : ∀ cache prompts,
      SameBut k r { { r with cache }.setLink k ({ · with negotiation :=
        (link.negotiation.step rules.negotiation r.cache performed).2 }) with prompts } :=
    fun cache prompts =>
      (((SameBut.refl k r).withCache cache).setLink hlink rfl id).withPrompts prompts
  have hget := links_setLink hlink ({ · with negotiation :=
    (link.negotiation.step rules.negotiation r.cache performed).2 })
  have hdoes : ∀ {jobs}, (∀ job ∈ jobs, job ∈ negotiationJobs k) →
      Does rules k (.negotiate k action) (r.standing k link)
        { r.standing k link with link.negotiation :=
          (link.negotiation.step rules.negotiation r.cache performed).2 } jobs :=
    .negotiates notReport
  unfold negotiateLink
  dsimp only
  split
  · exact ⟨hsame _ _, ⟨_, hget, hdoes (by simp)⟩, by simp⟩
  · exact ⟨hsame _ _, ⟨_, hget, hdoes (by simp [negotiationJobs])⟩, by simp⟩
  · exact ⟨hsame _ _, ⟨_, hget, hdoes (by simp)⟩, by simp⟩
  · rename_i hbefore hafter
    have hwaits : (link.negotiation.step rules.negotiation r.cache .take).2 = link.negotiation :=
      Negotiation.step_take_waiting hbefore hafter
    rw [hwaits] at hdoes
    exact obeys_self hlink (hdoes (by simp [negotiationJobs]))
  · exact ⟨hsame _ _, ⟨_, hget, hdoes (by simp)⟩, by simp⟩

/-- **Launching.** -/
theorem launchLink_obeys (hlink : r.links[k]? = some link) :
    (r.launchLink rules k link).Obeys rules r k link (.launch k) := by
  unfold launchLink
  cases hresult : link.negotiation.result? with
  | none => exact obeys_self hlink (.launchesNothing hresult)
  | some result =>
    have hphase := Negotiation.phase_of_result? hresult
    dsimp only
    rw [Negotiation.step_report hphase]
    have hsame : SameBut k r ({ r with cache := r.cache }.setLink k
        ({ · with negotiation := { link.negotiation with phase := .reported result } })) :=
      ((SameBut.refl k r).withCache r.cache).setLink hlink rfl id
    have hget := links_setLink hlink
      ({ · with negotiation := { link.negotiation with phase := .reported result } })
    cases result with
    | error e =>
      exact obeys_of hsame.dropLink hget (standing_dropLink _ _ _) (.refused hphase) rfl
    | ok connection =>
      dsimp only
      by_cases hstage : link.stage = .stopped
      · rw [if_pos hstage]
        exact obeys_of hsame hget rfl (.late hphase hstage) rfl
      · rw [if_neg hstage]
        cases hcreate : rules.create link.service.key.name link.plan.kind connection with
        | error reason =>
          dsimp only
          exact obeys_of ((hsame.make connection).setLink hget rfl fun _ => rfl)
            (links_setLink hget _) ((standing_setLink _ k _ _).trans (standing_make _ k _ connection))
            (.failed hphase hstage hcreate) rfl
        | ok _ =>
          dsimp only
          exact obeys_of ((hsame.make connection).setLink hget rfl fun h => absurd h hstage)
            (links_setLink hget _) ((standing_setLink _ k _ _).trans (standing_make _ k _ connection))
            (.launched hphase hstage hcreate) rfl

/-- **A job about a link does what jobs do to their link**, and touches no other link. What it
announces has been stopped before. -/
theorem perform_obeys (hlink : r.links[k]? = some link) {job : Job} (hjob : job.link? = some k)
    (husual : job.IsUsual)
    (hstopped : ∀ event, job.event? = some event → event.isFarewell → link.stage = .stopped) :
    (r.perform rules job).Obeys rules r k link job := by
  cases job with
  | check | enroll | detach | drain | refresh | abandon => cases hjob
  | negotiate n action =>
    obtain rfl : n = k := Option.some_inj.mp hjob
    have notReport : action ≠ .report := by rintro rfl; exact husual
    rw [perform, hlink]
    exact negotiateLink_obeys hlink notReport
  | launch n =>
    obtain rfl : n = k := Option.some_inj.mp hjob
    rw [perform, hlink]
    exact launchLink_obeys hlink
  | confirm n =>
    obtain rfl : n = k := Option.some_inj.mp hjob
    rw [perform, hlink]
    by_cases hstage : link.stage = .launching
    · simp only [if_pos hstage]
      have hrunning := (SameBut.refl n r).setLink (f := ({ · with stage := .running })) hlink rfl
        fun h => absurd h (by simp [hstage])
      exact obeys_of (hrunning.tell rfl) (links_setLink hlink _) (standing_tell _ _ rfl)
        (.confirmed hstage) rfl
    · simp only [if_neg hstage]
      exact obeys_self hlink (.confirmsNothing hstage)
  | keep n =>
    obtain rfl : n = k := Option.some_inj.mp hjob
    refine obeys_whenFree hlink hjob fun hstage => ?_
    cases h : link.stage with
    | pending => exact obeys_setLink hlink rfl (by simp [h]) (.kept h)
    | stopped => exact obeys_self hlink (.cancels h)
    | negotiating => exact obeys_self hlink (.keepsNothing (.inl h))
    | running => exact obeys_self hlink (.keepsNothing (.inr h))
    | launching => exact absurd h hstage
  | withdraw n =>
    obtain rfl : n = k := Option.some_inj.mp hjob
    exact obeys_of (SameBut.refl n r).dropLink hlink (standing_dropLink _ _ _) .withdrawn rfl
  | halt n =>
    obtain rfl : n = k := Option.some_inj.mp hjob
    refine obeys_whenFree hlink hjob fun hstage => ?_
    exact obeys_setLink hlink rfl (fun _ => rfl) (.halted hstage)
  | leave n =>
    obtain rfl : n = k := Option.some_inj.mp hjob
    rw [perform, hlink]
    exact obeys_of (SameBut.refl n r).dropLink hlink (standing_dropLink _ _ _) .left rfl
  | depart n =>
    obtain rfl : n = k := Option.some_inj.mp hjob
    exact obeys_setLink hlink rfl id .departed
  | release n =>
    obtain rfl : n = k := Option.some_inj.mp hjob
    refine obeys_whenFree hlink hjob fun hstage => ?_
    exact obeys_setLink hlink rfl (fun _ => rfl) (.released hstage)
  | signal n =>
    obtain rfl : n = k := Option.some_inj.mp hjob
    exact obeys_setLink hlink rfl id .signalled
  | join n =>
    obtain rfl : n = k := Option.some_inj.mp hjob
    rw [perform]
    split
    · exact obeys_self hlink (.waits rfl)
    · exact obeys_self hlink .joined
  | announce event =>
    obtain rfl : event.link = k := Option.some_inj.mp hjob
    exact obeys_of ((SameBut.refl _ r).tell rfl) hlink (standing_tell _ _ rfl)
      (.announced rfl husual (hstopped event rfl husual)) rfl

end Registry

end LogIntake
