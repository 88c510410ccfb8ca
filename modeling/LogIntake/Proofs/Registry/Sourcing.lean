import LogIntake.Proofs.Registry.OwnAccord
import LogIntake.Proofs.Registry.Requests

/-!
# Sources that can always be made

* `Registry.prepared_run`, `Registry.enroll_of_new`: a link comes from a request that has been prepared.
* `Negotiation.KeepsAddress`: a negotiation leaves the address of its connection alone.
* `Link.IsSourced`: the address of a file can be read, and the negotiation leaves it alone;
  `Dossier.Step.isSourced`: whatever happens to the link.
* **`Registry.isSourced_run`**: for every link of every run, `Link.IsSourced.defaultSource`: once its
  negotiation has succeeded, the usual source can be made for it.
-/

namespace LogIntake

/-! ## New links -/

namespace Registry

variable {rules : RegistryRules} {r : Registry} {n : Nat} {link : Link} {job j : Job} {action : Action}

/-- A link that is to be registered has been prepared. -/
theorem exists_prepare_of_next (hj : .enroll link ∈ (r.perform rules job).next) :
    ∃ request : Request, request.prepare = .ok link := by
  cases job with
  | check request =>
    rw [perform] at hj
    split at hj
    · cases hj
    · split at hj
      · next other hprepare =>
        rw [List.mem_singleton] at hj
        cases hj
        exact ⟨request, hprepare⟩
      · cases hj
  | _ =>
    simp only [perform, whenFree, negotiateLink, launchLink, endingJobs] at hj
    repeat' split at hj
    all_goals simp at hj

/-- **Whatever is to be registered has been prepared for a request.** -/
theorem prepared_run (actions : List Action) (hjob : .enroll link ∈ (run rules {} actions).jobs) :
    ∃ request : Request, request.prepare = .ok link := by
  induction actions using List.reverseRecOn with
  | nil => simp [run, jobs] at hjob
  | append_singleton actions action ih =>
    rw [run_append] at hjob
    obtain ⟨task, htask, hmem⟩ := List.mem_flatMap.mp hjob
    obtain ⟨number, hnumber⟩ := List.mem_iff_getElem?.mp htask
    have horigin : Origin rules (run rules {} actions) action number (.enroll link) :=
      origin_step hnumber hmem
    cases horigin with
    | old hbefore hj => exact ih (mem_jobs hbefore hj)
    | next _ hj => exact exists_prepare_of_next hj
    | spawned hj => simp [negotiationJobs] at hj
    | ended hj => cases hj
    | @called call _ _ hj => cases call <;> cases hj

theorem length_links_perform (h : ∀ link, job ≠ .enroll link) :
    (r.perform rules job).registry.links.length = r.links.length := by
  cases job with
  | enroll link => exact absurd rfl (h link)
  | _ =>
    simp only [perform, whenFree, negotiateLink, launchLink]
    repeat' split
    all_goals simp [setLink, setStage, dropLink, tell, make]

theorem length_links_afterJob (number : Nat) (rest : List Job) (h : ∀ link, job ≠ .enroll link) :
    (afterJob number rest (r.perform rules job)).links.length = r.links.length :=
  length_links_perform h

/-- A registry that has as many links as before has no new one. -/
theorem getElem?_links_ne {r' : Registry} (hnone : r.links[n]? = none)
    (hlength : r'.links.length = r.links.length) : r'.links[n]? ≠ some link := by
  intro hlink
  have hlt : n < r'.links.length := (List.getElem?_eq_some_iff.mp hlink).1
  have hle : r.links.length ≤ n := List.getElem?_eq_none_iff.mp hnone
  omega

/-- **A new link was to be registered.** -/
theorem enroll_of_new (hnone : r.links[n]? = none)
    (hlink : (r.step rules action).links[n]? = some link) : .enroll link ∈ r.jobs := by
  cases action with
  | call call => exact absurd hlink (getElem?_links_ne hnone rfl)
  | answer k answer =>
    have hlength : (r.perform rules (.negotiate k (.reply answer))).registry.links.length =
        r.links.length := length_links_perform (by simp)
    exact absurd hlink (getElem?_links_ne hnone hlength)
  | failWorker number reason =>
    change (r.failWorker rules number reason).links[n]? = some link at hlink
    unfold failWorker at hlink
    split at hlink
    · exact absurd hlink (getElem?_links_ne hnone (length_links_afterJob number _ (by simp)))
    · exact absurd hlink (getElem?_links_ne hnone rfl)
  | source k input =>
    refine absurd hlink (getElem?_links_ne hnone ?_)
    show (r.feedWorker rules k input).links.length = r.links.length
    unfold feedWorker
    repeat' split
    all_goals simp [setLink]
  | advance number =>
    change (r.advance rules number).links[n]? = some link at hlink
    unfold advance at hlink
    split at hlink
    · next job rest hhead =>
      obtain ⟨task, htask, hjobs⟩ := Option.map_eq_some_iff.mp hhead
      by_cases henroll : ∃ other, job = .enroll other
      · obtain ⟨other, rfl⟩ := henroll
        change (r.perform rules (.enroll other)).registry.links[n]? = some link at hlink
        rw [perform] at hlink
        split at hlink
        · exact absurd hlink (getElem?_links_ne hnone rfl)
        · have hle : r.links.length ≤ n := List.getElem?_eq_none_iff.mp hnone
          rw [addLink, List.getElem?_append_right hle] at hlink
          obtain rfl := List.mem_singleton.mp (List.mem_of_getElem? hlink)
          exact mem_jobs htask (hjobs ▸ List.mem_cons_self)
      · exact absurd hlink (getElem?_links_ne hnone
          (length_links_afterJob number rest fun other h => henroll ⟨other, h⟩))
    · exact absurd hlink (getElem?_links_ne hnone rfl)

end Registry

/-! ## Negotiations -/

namespace Negotiation

variable {rules : NegotiationRules} {cache : CredentialCache} {negotiation : Negotiation}

/-- What a negotiation has come to leaves the address of the connection alone. -/
def KeepsAddress (negotiation : Negotiation) : Prop :=
  ∀ connection, negotiation.phase = .settled (.ok connection) ∨
    negotiation.phase = .reported (.ok connection) → connection.uri = negotiation.connection.uri

theorem step_connection (action : NegotiationAction) :
    (negotiation.step rules cache action).2.connection = negotiation.connection := by
  unfold step
  repeat' split
  all_goals rfl

theorem keepsAddress_of_phase {phase : NegotiationPhase}
    (h : ∀ connection, phase = .settled (.ok connection) ∨ phase = .reported (.ok connection) →
      connection.uri = negotiation.connection.uri) : { negotiation with phase }.KeepsAddress := h

/-- The connection that is given credentials has the same address. -/
theorem uri_of_resultWith {credentials : Credentials} {connection : Connection}
    (h : negotiation.resultWith credentials = .ok connection) :
    connection.uri = negotiation.connection.uri := by
  cases h
  rfl

theorem uri_of_started {worker : Except String Unit} {connection : Connection}
    (h : negotiation.started rules cache worker = .settled (.ok connection)) :
    connection.uri = negotiation.connection.uri := by
  unfold started at h
  repeat' split at h
  all_goals cases h
  all_goals rfl

theorem uri_of_resultOf {answer : CredentialAnswer} {connection : Connection}
    (h : negotiation.resultOf answer = .ok connection) :
    connection.uri = negotiation.connection.uri := by
  cases answer with
  | provided credentials => exact uri_of_resultWith h
  | declined | cancelled => cases h

/-- **A negotiation goes on to leave the address alone.** -/
theorem KeepsAddress.step (h : negotiation.KeepsAddress) (action : NegotiationAction) :
    (negotiation.step rules cache action).2.KeepsAddress := by
  cases action with
  | reply answer => exact h
  | start worker =>
    unfold Negotiation.step
    dsimp only
    split
    · refine keepsAddress_of_phase fun connection hphase => ?_
      obtain hsettled | hreported := hphase
      · exact uri_of_started hsettled
      · unfold started at hreported
        repeat' split at hreported
        all_goals cases hreported
    · exact h
  | ask | take =>
    unfold Negotiation.step
    dsimp only
    split
    · exact keepsAddress_of_phase (by simp)
    · exact h
  | settle =>
    unfold Negotiation.step
    dsimp only
    split
    · refine keepsAddress_of_phase fun connection hphase => ?_
      obtain hsettled | hreported := hphase
      · exact uri_of_resultOf (NegotiationPhase.settled.inj hsettled)
      · cases hreported
    · exact h
  | report =>
    unfold Negotiation.step
    dsimp only
    split
    · next hphase =>
      refine keepsAddress_of_phase fun connection hreported => h connection (.inl ?_)
      obtain hsettled | hreported := hreported
      · cases hsettled
      · cases hreported
        exact hphase
    · exact h

end Negotiation

/-! ## Links -/

/-- The address of a file can be read, and the negotiation leaves it alone. -/
structure Link.IsSourced (link : Link) : Prop where
  read : link.plan.kind = .file → ∃ uri, Uri.parse link.negotiation.connection.uri = .ok uri
  keeps : link.negotiation.KeepsAddress

namespace Link.IsSourced

variable {link : Link}

theorem of_prepare {request : Request} (h : request.prepare = .ok link) : link.IsSourced := by
  obtain ⟨-, -, hnegotiation, hread⟩ := Request.prepare_eq_ok h
  rw [← show link.negotiation.connection = link.plan.connection by rw [hnegotiation]] at hread
  exact ⟨hread, by simp [Negotiation.KeepsAddress, hnegotiation]⟩

theorem reported (h : link.IsSourced) {result : NegotiationResult}
    (hphase : link.negotiation.phase = .settled result) :
    { link with negotiation.phase := .reported result }.IsSourced := by
  refine ⟨h.read, fun connection hreported => h.keeps connection (.inl ?_)⟩
  obtain hsettled | hreported := hreported
  · cases hsettled
  · cases hreported
    exact hphase

/-- **The usual source can be made** for the connection that a negotiation has come to. -/
theorem defaultSource (h : link.IsSourced) {connection : Connection}
    (hphase : link.negotiation.phase = .settled (.ok connection) ∨
      link.negotiation.phase = .reported (.ok connection)) (name : String) :
    defaultSource name link.plan.kind connection = .ok () := by
  have huri : connection.uri = link.negotiation.connection.uri := h.keeps connection hphase
  cases hkind : link.plan.kind with
  | file =>
    obtain ⟨uri, hread⟩ := h.read hkind
    rw [← huri] at hread
    simp only [LogIntake.defaultSource, ReceiverKind.socket?, TailSource.new, Uri.read, hread]
    rfl
  | _ => rfl

end Link.IsSourced

variable {rules : RegistryRules} {n : Nat} {job : Job} {x x' : Standing} {jobs : List Job}

/-- Whatever a job does to its link, the usual source can still be made for it. -/
theorem Does.isSourced (hdoes : Does rules n job x x' jobs) (h : x.link.IsSourced) :
    x'.link.IsSourced := by
  cases hdoes with
  | negotiates => exact ⟨by rw [Negotiation.step_connection]; exact h.read, h.keeps.step _⟩
  | refused hphase | late hphase | failed hphase | launched hphase =>
    obtain ⟨hread, hkeeps⟩ := h.reported hphase
    exact ⟨hread, hkeeps⟩
  | confirmed | kept | halted | departed | released | signalled => exact ⟨h.read, h.keeps⟩
  | _ => exact h

theorem Dossier.Step.isSourced {x x' : Dossier} (hstep : x.Step rules n x')
    (h : x.standing.link.IsSourced) : x'.standing.link.IsSourced := by
  cases hstep with
  | does hdoes => exact hdoes.isSourced h
  | parted => exact h
  | answered | fed => exact ⟨h.read, h.keeps⟩

/-- **For every link of every run the usual source can be made**, once its negotiation has succeeded. -/
theorem Registry.isSourced_run (actions : List Registry.Action) {link : Link}
    (hlink : (Registry.run rules {} actions).links[n]? = some link) : link.IsSourced := by
  induction actions using List.reverseRecOn generalizing link with
  | nil => simp [Registry.run] at hlink
  | append_singleton actions action ih =>
    rw [Registry.run_append] at hlink
    obtain ⟨x, hx, hnext⟩ | ⟨hnone, -⟩ :=
      (Registry.proceeds_run rules actions action).dossiers n _ (Registry.dossier?_eq hlink)
    · obtain ⟨old, hold, rfl⟩ := Option.map_eq_some_iff.mp hx
      obtain heq | hstep := hnext
      · have hsame : link = old := congrArg (·.standing.link) heq
        exact hsame ▸ ih hold
      · exact hstep.isSourced (ih hold)
    · have hnone := Option.map_eq_none_iff.mp hnone
      have henroll : .enroll link ∈ (Registry.run rules {} actions).jobs :=
        Registry.enroll_of_new hnone hlink
      obtain ⟨request, hprepare⟩ := Registry.prepared_run actions henroll
      exact .of_prepare hprepare

end LogIntake
