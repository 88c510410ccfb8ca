import LogIntake.Proofs.Registry.Calls
import LogIntake.Proofs.Registry.Sourcing

/-!
# Requests that are refused

* `Registry.Refuses`: why a registry refuses a request; `Registry.check_of_refuses`,
  `Registry.check_of_accepts`.
* `Registry.returns_enrolled`: a link that has been registered lets its call return.
* `Registry.RequestStep`: how the call of a request goes on among others; `Registry.requestStep`.
* **`Registry.refused_iff`**: a request is refused exactly for its faults, and a refusal leaves no trace.
-/

namespace LogIntake

namespace Registry

variable {rules : RegistryRules} {r : Registry} {request : Request} {link : Link} {e : ConnectError}
  {n k : Nat}

/-! ## Refusing -/

/-- Why a registry refuses a request: its key is taken, or else something is wrong with it. -/
inductive Refuses (r : Registry) (request : Request) : ConnectError → Prop
  | taken (h : ∃ entry ∈ r.entries, entry.key = request.key) :
      Refuses r request (.alreadyConnected request.key)
  | faulty {e : ConnectError} (hfree : ∀ entry ∈ r.entries, entry.key ≠ request.key)
      (h : request.Faulty e) : Refuses r request e

/-- A registry has nothing against a request. -/
def Accepts (r : Registry) (request : Request) : Prop := ∀ e, ¬ r.Refuses request e

theorem isConnected_iff {key : ServiceKey} :
    r.isConnected key = true ↔ ∃ entry ∈ r.entries, entry.key = key := by
  simp [isConnected, find?]

/-- **A request that is refused changes nothing.** -/
theorem check_of_refuses (rules : RegistryRules) (h : r.Refuses request e) :
    r.perform rules (.check request) = { registry := r, failure := some e } := by
  cases h with
  | taken h => rw [perform, if_pos (isConnected_iff.mpr h)]
  | faulty hfree h =>
    have hnot : ¬ r.isConnected request.key = true := by
      rw [isConnected_iff]
      rintro ⟨entry, hentry, hkey⟩
      exact hfree entry hentry hkey
    rw [perform, if_neg hnot, Request.prepare_eq_error_iff.mpr h]

/-- **A request that is not refused can be prepared**, and is to be registered next. -/
theorem check_of_accepts (rules : RegistryRules) (h : r.Accepts request) :
    ∃ link, request.prepare = .ok link ∧
      r.perform rules (.check request) = { registry := r, next := [.enroll link] } := by
  have hfree : ¬ r.isConnected request.key = true := fun htaken =>
    h _ (.taken (isConnected_iff.mp htaken))
  cases hprepare : request.prepare with
  | error e =>
    refine absurd (.faulty (fun entry hentry hkey => ?_) (Request.prepare_eq_error_iff.mp hprepare)) (h e)
    exact hfree (isConnected_iff.mpr ⟨entry, hentry, hkey⟩)
  | ok link =>
    refine ⟨link, rfl, ?_⟩
    rw [perform, if_neg hfree, hprepare]

/-- A request that can be prepared is refused only for its key. -/
theorem accepts_of_prepare (hprepare : request.prepare = .ok link)
    (hfree : ¬ r.isConnected request.key = true) : r.Accepts request := by
  rintro e (htaken | ⟨-, hfaulty⟩)
  · exact hfree (isConnected_iff.mpr htaken)
  · cases hprepare.symm.trans (Request.prepare_eq_error_iff.mpr hfaulty)

/-! ## Returning -/

theorem links_setStage (hlink : r.links[n]? = some link) (stage : LinkStage) :
    (r.setStage n stage).links[n]? = some { link with stage } :=
  links_setLink hlink _

/-- The call that has begun a negotiation looks at its link last. -/
theorem returns_keep (hlink : r.links[n]? = some link) (hstage : link.stage ≠ .launching) :
    Returns rules 2 r [.keep n] := by
  cases hcase : link.stage with
  | launching => exact absurd hcase hstage
  | stopped =>
    have hperform : r.perform rules (.keep n) =
        { registry := r, next := [.negotiate n (.reply .cancelled)] } := by
      simp [perform, whenFree, hlink, hcase]
    refine .next (by rw [hperform]) ?_
    rw [hperform]
    refine .next (by simp [perform, hlink, negotiateLink]) ?_
    simp only [perform, hlink, negotiateLink]
    exact .done
  | pending =>
    have hperform : r.perform rules (.keep n) = { registry := r.setStage n .negotiating } := by
      simp [perform, whenFree, hlink, hcase]
    refine .next (by rw [hperform]) ?_
    rw [hperform]
    exact .done
  | negotiating | running =>
    have hperform : r.perform rules (.keep n) = { registry := r } := by
      simp [perform, whenFree, hlink, hcase]
    refine .next (by rw [hperform]) ?_
    rw [hperform]
    exact .done

theorem returns_halt (hlink : r.links[n]? = some link) (hstage : link.stage ≠ .launching) :
    Returns rules 3 r [.halt n, .keep n] := by
  have hperform : r.perform rules (.halt n) = { registry := r.setStage n .stopped } := by
    simp only [perform, whenFree, hlink, if_neg hstage]
  refine .next (by rw [hperform]) ?_
  rw [hperform]
  exact returns_keep (links_setStage hlink .stopped) (by simp)

theorem returns_withdraw (hlink : r.links[n]? = some link) (hstage : link.stage ≠ .launching) :
    Returns rules 3 r [.withdraw n, .keep n] :=
  .next rfl (returns_keep hlink hstage)

theorem returns_confirm (hlink : r.links[n]? = some link) (hstage : link.stage = .launching) :
    Returns rules 3 r [.confirm n, .keep n] := by
  have hperform : r.perform rules (.confirm n) =
      { registry := (r.setStage n .running).tell (.connected n link.service) } := by
    simp only [perform, hlink, if_pos hstage]
  refine .next (by rw [hperform]) ?_
  rw [hperform]
  exact returns_keep (links_setStage hlink .running) (by simp)

/-- A link whose negotiation is over at once gets a worker or does not. -/
theorem returns_launch (hlink : r.links[n]? = some link) {result : NegotiationResult}
    (hphase : link.negotiation.phase = .settled result) (hstage : link.stage = .pending) :
    Returns rules 4 r [.launch n, .keep n] := by
  have hresult : link.negotiation.result? = some result := by simp [Negotiation.result?, hphase]
  let reported := ({ r with cache := r.cache }).setLink n fun link' =>
    { link' with negotiation := { link.negotiation with phase := .reported result } }
  have hreported : reported.links[n]? =
      some { link with negotiation := { link.negotiation with phase := .reported result } } :=
    links_setLink hlink _
  have hperform : r.perform rules (.launch n) = r.launchLink rules n link := by rw [perform, hlink]
  have hnotStopped : ¬ link.stage = .stopped := by simp [hstage]
  rw [launchLink, hresult, Negotiation.step_report hphase] at hperform
  dsimp only at hperform
  cases result with
  | error e =>
    refine .next (by rw [hperform]) ?_
    rw [hperform]
    exact returns_halt (r := reported.dropLink n) hreported (by simp [hstage])
  | ok connection =>
    dsimp only at hperform
    rw [if_neg hnotStopped] at hperform
    cases hcreate : rules.create link.service.key.name link.plan.kind connection with
    | error reason =>
      rw [hcreate] at hperform
      refine .next (by rw [hperform]) ?_
      rw [hperform]
      exact returns_withdraw (r := (reported.make n connection).setStage n .stopped)
        (links_setStage hreported .stopped) (by simp)
    | ok _ =>
      rw [hcreate] at hperform
      refine .next (by rw [hperform]) ?_
      rw [hperform]
      exact returns_confirm (links_setLink (r := reported.make n connection) hreported _) rfl

/-- **A link that has been registered lets its call return.** -/
theorem returns_enrolled (hlink : r.links[n]? = some link) (hnew : link.IsNew) :
    Returns rules 5 r [.negotiate n (.start (.ok ())), .keep n] := by
  obtain ⟨hstage, hphase, -⟩ := hnew
  generalize hstarted : link.negotiation.started rules.negotiation r.cache (.ok ()) = phase
  have hlinks : (r.setLink n fun link' =>
      { link' with negotiation := { link.negotiation with phase } }).links[n]? =
      some { link with negotiation := { link.negotiation with phase } } := links_setLink hlink _
  have hperform : r.perform rules (.negotiate n (.start (.ok ()))) =
      r.negotiateLink rules n link (.start (.ok ())) := by rw [perform, hlink]
  simp only [negotiateLink, Negotiation.step, hphase, hstarted] at hperform
  obtain rfl | ⟨result, rfl⟩ : phase = .starting ∨ ∃ result, phase = .settled result := by
    rw [← hstarted, Negotiation.started]
    repeat' split
    all_goals simp
  · refine .next (by rw [hperform]) ?_
    rw [hperform]
    exact (returns_keep hlinks (by simp [hstage])).mono (by omega)
  · refine .next (by rw [hperform]) ?_
    rw [hperform]
    exact returns_launch hlinks rfl hstage

/-! ## A call among others -/

/-- The registry in some actions after a request. -/
def during (rules : RegistryRules) (r : Registry) (request : Request) (actions : List Action) : Registry :=
  r.run rules (.call (.connect request) :: actions)

/-- The call of a request changes nothing in some actions, but for what it still has to do itself. -/
def Traceless (rules : RegistryRules) (r : Registry) (request : Request) (actions : List Action) : Prop :=
  ∀ front action, front ++ [action] <+: actions → action.task? = some r.tasks.length →
    ∃ task, r.during rules request (front ++ [action]) =
      { r.during rules request front with
        tasks := (r.during rules request front).tasks.set r.tasks.length task }

/-- It has not been decided yet whether a request is refused. -/
inductive IsOpen (request : Request) : Task → Prop
  | asked : IsOpen request ⟨[.check request], none⟩
  | checked {link : Link} (h : request.prepare = .ok link) : IsOpen request ⟨[.enroll link], none⟩

/-- A request has been granted: its call has nothing more to do that may fail. -/
structure IsGranted (task : Task) : Prop where
  failure : task.failure = none
  jobs : ∀ job ∈ task.jobs, job.enrols = false ∧ job.parts = false

/-- How far the call of a request has come in some actions. -/
inductive Course (rules : RegistryRules) (r : Registry) (request : Request) (actions : List Action) :
    Task → Prop
  | undecided {task : Task} (hopen : IsOpen request task)
      (htraceless : r.Traceless rules request actions) : Course rules r request actions task
  | refused {e : ConnectError}
      (h : ∃ front, front <+: actions ∧ (r.during rules request front).Refuses request e)
      (htraceless : r.Traceless rules request actions) : Course rules r request actions ⟨[], some e⟩
  | granted {task : Task}
      (h : ∃ front, front <+: actions ∧ (r.during rules request front).Accepts request)
      (hgranted : IsGranted task) : Course rules r request actions task

variable {action : Action} {actions : List Action} {task : Task} {job : Job} {rest : List Job}

theorem during_append (front back : List Action) :
    r.during rules request (front ++ back) = (r.during rules request front).run rules back := by
  rw [during, ← List.cons_append, run_append]
  rfl

theorem Traceless.nil : r.Traceless rules request [] := by
  intro front action h
  simp at h

theorem Traceless.snoc (h : r.Traceless rules request actions)
    (hstep : action.task? = some r.tasks.length → ∃ task, r.during rules request (actions ++ [action]) =
      { r.during rules request actions with
        tasks := (r.during rules request actions).tasks.set r.tasks.length task }) :
    r.Traceless rules request (actions ++ [action]) := by
  intro front other hfront hown
  obtain heq | hbefore := List.prefix_concat_iff.mp hfront
  · obtain ⟨rfl, rfl⟩ := List.append_inj' heq rfl |>.imp_right List.singleton_inj.mp
    exact hstep hown
  · exact h front other hbefore hown

/-- Only a request can fail, or a call to disconnect. -/
theorem failure_eq_none (henrols : job.enrols = false) (hparts : job.parts = false) :
    (r.perform rules job).failure = none := by
  cases job with
  | check | enroll | refresh => cases henrols
  | detach | release | drain | abandon => cases hparts
  | _ =>
    simp only [perform, whenFree, negotiateLink, launchLink]
    repeat' split
    all_goals rfl

/-- **What has been granted remains so.** -/
theorem IsGranted.next (rules : RegistryRules) (r : Registry) (h : IsGranted task)
    (hjobs : task.jobs = job :: rest) {performed : Job}
    (hsure : performed.enrols = false ∧ performed.parts = false) :
    IsGranted ⟨(r.perform rules performed).next ++ rest, (r.perform rules performed).failure⟩ where
  failure := failure_eq_none hsure.1 hsure.2
  jobs j hj := by
    obtain hnext | hrest := List.mem_append.mp hj
    · exact ⟨enrols_next hsure.1 hnext, parts_next hsure.2 hnext⟩
    · exact h.jobs j (hjobs ▸ List.mem_cons_of_mem _ hrest)

theorem IsGranted.step (rules : RegistryRules) (h : IsGranted task) (htask : r.tasks[k]? = some task)
    (action : Action) : ∃ task', (r.step rules action).tasks[k]? = some task' ∧ IsGranted task' := by
  have hk : k < r.tasks.length := (List.getElem?_eq_some_iff.mp htask).1
  by_cases hown : action.task? = some k
  · obtain ⟨jobs, failure⟩ := task
    cases action with
    | call | answer | source => cases hown
    | advance number =>
      obtain rfl : number = k := Option.some_inj.mp hown
      cases jobs with
      | nil => exact ⟨_, by simp [step, advance, htask], h⟩
      | cons job rest =>
        refine ⟨_, ?_, h.next rules r rfl (h.jobs job List.mem_cons_self)⟩
        rw [advance_eq htask, getElem?_tasks_afterJob hk, if_pos rfl]
    | failWorker number reason =>
      obtain rfl : number = k := Option.some_inj.mp hown
      show ∃ task', (r.failWorker rules number reason).tasks[number]? = some task' ∧ _
      unfold failWorker
      split
      · next link worker rest hhead =>
        rw [htask, Option.map_some, Option.some_inj] at hhead
        refine ⟨_, by rw [getElem?_tasks_afterJob hk, if_pos rfl], h.next rules r hhead ⟨rfl, rfl⟩⟩
      · exact ⟨_, htask, h⟩
  · exact ⟨task, (getElem?_tasks_step hk hown).trans htask, h⟩

/-- What the next step of an undecided call comes to: it changes nothing but the task, unless it grants the
request. -/
inductive Decides (r r' : Registry) (request : Request) (k : Nat) : Prop
  | undecided {task : Task} (h : r' = { r with tasks := r.tasks.set k task }) (hopen : IsOpen request task)
  | refused {e : ConnectError} (h : r' = { r with tasks := r.tasks.set k ⟨[], some e⟩ })
      (hrefuses : r.Refuses request e)
  | granted {task : Task} (h : r'.tasks[k]? = some task) (hgranted : IsGranted task)
      (haccepts : r.Accepts request)

/-- A task that is as it was. -/
theorem eq_set_self (htask : r.tasks[k]? = some task) : r = { r with tasks := r.tasks.set k task } := by
  obtain ⟨hk, rfl⟩ := List.getElem?_eq_some_iff.mp htask
  rw [List.set_getElem_self]

/-- A call that has ended does nothing more. -/
theorem step_of_ended {failure : Option ConnectError} (htask : r.tasks[k]? = some ⟨[], failure⟩)
    (hown : action.task? = some k) : r.step rules action = r := by
  cases action with
  | call | answer | source => cases hown
  | advance number =>
    obtain rfl : number = k := Option.some_inj.mp hown
    simp [step, advance, htask]
  | failWorker number reason =>
    obtain rfl : number = k := Option.some_inj.mp hown
    simp [step, failWorker, htask]

/-- **An undecided call changes nothing unless its request is granted.** -/
theorem IsOpen.decides (rules : RegistryRules) (h : IsOpen request task) (htask : r.tasks[k]? = some task)
    (hown : action.task? = some k) : Decides r (r.step rules action) request k := by
  have hk : k < r.tasks.length := (List.getElem?_eq_some_iff.mp htask).1
  have hsame : r = { r with tasks := r.tasks.set k task } := eq_set_self htask
  cases action with
  | call | answer | source => cases hown
  | failWorker number reason =>
    obtain rfl : number = k := Option.some_inj.mp hown
    have hnothing : r.step rules (.failWorker number reason) = r := by
      cases h <;> simp [step, failWorker, htask]
    rw [hnothing]
    exact .undecided hsame h
  | advance number =>
    obtain rfl : number = k := Option.some_inj.mp hown
    cases h with
    | asked =>
      rw [advance_eq htask]
      by_cases haccepts : r.Accepts request
      · obtain ⟨link, hprepare, hperform⟩ := check_of_accepts rules haccepts
        rw [hperform]
        exact .undecided (by simp [afterJob]) (.checked hprepare)
      · simp only [Accepts, not_forall, not_not] at haccepts
        obtain ⟨e, hrefuses⟩ := haccepts
        rw [check_of_refuses rules hrefuses]
        exact .refused (by simp [afterJob]) hrefuses
    | @checked link hprepare =>
      rw [advance_eq htask]
      have hkey : link.service.key = request.key := by
        rw [(Request.prepare_eq_ok hprepare).1]
        rfl
      by_cases htaken : r.isConnected link.service.key = true
      · rw [perform, if_pos htaken, hkey]
        exact .refused (by simp [afterJob]) (.taken (isConnected_iff.mp (hkey ▸ htaken)))
      · have hperform : r.perform rules (.enroll link) = r.enrolled link := by
          rw [perform, if_neg htaken]
          rfl
        have hafter : (afterJob number [] (r.perform rules (.enroll link))).tasks[number]? =
            some ⟨(r.enrolled link).next ++ [], none⟩ := by
          rw [getElem?_tasks_afterJob hk, if_pos rfl, hperform]
          rfl
        refine .granted hafter ⟨rfl, ?_⟩ (accepts_of_prepare hprepare (hkey ▸ htaken))
        simp [enrolled, Job.enrols, Job.parts]

/-- **However a call goes on, it is undecided, refused or granted.** -/
theorem course_run (rules : RegistryRules) (r : Registry) (request : Request) (actions : List Action) :
    ∃ task, (r.during rules request actions).tasks[r.tasks.length]? = some task ∧
      r.Course rules request actions task := by
  induction actions using List.reverseRecOn with
  | nil => exact ⟨⟨[.check request], none⟩, by simp [during, run, step, Call.job], .undecided .asked .nil⟩
  | append_singleton actions action ih =>
    obtain ⟨task, htask, hcourse⟩ := ih
    have hafter : r.during rules request (actions ++ [action]) =
        (r.during rules request actions).step rules action := during_append actions [action]
    have hlonger : ∀ {P : Registry → Prop},
        (∃ front, front <+: actions ∧ P (r.during rules request front)) →
        ∃ front, front <+: actions ++ [action] ∧ P (r.during rules request front) := by
      rintro P ⟨front, hfront, h⟩
      exact ⟨front, hfront.trans (List.prefix_append _ _), h⟩
    have hk : r.tasks.length < (r.during rules request actions).tasks.length :=
      (List.getElem?_eq_some_iff.mp htask).1
    cases hcourse with
    | granted h hgranted =>
      obtain ⟨task', htask', hgranted'⟩ := hgranted.step rules htask action
      exact ⟨task', hafter ▸ htask', .granted (hlonger (P := (·.Accepts request)) h) hgranted'⟩
    | @refused e h htraceless =>
      refine ⟨⟨[], some e⟩, ?_, .refused (hlonger (P := (·.Refuses request e)) h) (htraceless.snoc ?_)⟩
      · by_cases hown : action.task? = some r.tasks.length
        · rw [hafter, step_of_ended htask hown, htask]
        · rw [hafter, getElem?_tasks_step hk hown, htask]
      · intro hown
        rw [hafter, step_of_ended htask hown]
        exact ⟨_, eq_set_self htask⟩
    | undecided hopen htraceless =>
      by_cases hown : action.task? = some r.tasks.length
      · have hset : ∀ task', ((r.during rules request actions).tasks.set r.tasks.length task')[
            r.tasks.length]? = some task' := fun task' => List.getElem?_set_self hk
        obtain ⟨h, hopen'⟩ | ⟨h, hrefuses⟩ | ⟨h, hgranted, haccepts⟩ :=
          hopen.decides rules htask hown
        · exact ⟨_, by rw [hafter, h]; exact hset _,
            .undecided hopen' (htraceless.snoc fun _ => ⟨_, hafter.trans h⟩)⟩
        · exact ⟨_, by rw [hafter, h]; exact hset _,
            .refused ⟨actions, List.prefix_append _ _, hrefuses⟩
              (htraceless.snoc fun _ => ⟨_, hafter.trans h⟩)⟩
        · exact ⟨_, hafter ▸ h, .granted ⟨actions, List.prefix_append _ _, haccepts⟩ hgranted⟩
      · refine ⟨task, ?_, .undecided hopen (htraceless.snoc fun h => absurd h hown)⟩
        rw [hafter, getElem?_tasks_step hk hown, htask]

/-! ## A call at once -/

/-- A request that is refused leaves nothing but its failure. -/
theorem atOnce_of_refuses (h : r.Refuses request e) (n : Nat) :
    r.atOnce rules (.connect request) (n + 1) = r.withCall ⟨[], some e⟩ [] := by
  rw [atOnce_eq, Call.job, run_withCall rfl, check_of_refuses rules h]
  exact run_withCall_nil rfl n

/-- **A request that is not refused lets its call return without a failure.** -/
theorem returns_of_accepts (rules : RegistryRules) (h : r.Accepts request) :
    Returns rules 7 r [.check request] := by
  obtain ⟨link, hprepare, hcheck⟩ := check_of_accepts rules h
  refine .next (by rw [hcheck]) ?_
  rw [hcheck]
  have hkey : link.service.key = request.key := by
    rw [(Request.prepare_eq_ok hprepare).1]
    rfl
  have hfree : ¬ r.isConnected link.service.key = true := by
    rw [hkey, isConnected_iff]
    exact fun htaken => h _ (.taken htaken)
  have hperform : r.perform rules (.enroll link) = r.enrolled link := by
    rw [perform, if_neg hfree]
    rfl
  refine .next (by rw [hperform]; rfl) ?_
  rw [hperform]
  exact returns_enrolled (by simp [enrolled, addLink]) (Request.prepare_isNew hprepare)

/-- A registry has one reason to refuse a request, at most. -/
theorem Refuses.unique {e' : ConnectError} (h : r.Refuses request e) (h' : r.Refuses request e') :
    e = e' := by
  have hcheck := (check_of_refuses askingRules h).symm.trans (check_of_refuses askingRules h')
  exact Option.some_inj.mp (congrArg Outcome.failure hcheck)

/-- **A request that is made at once** is refused or granted, and nothing is changed if it is refused. -/
theorem atOnce_connect (rules : RegistryRules) (r : Registry) (request : Request) :
    ∃ failure, (r.atOnce rules (.connect request) 7).tasks[r.tasks.length]? = some ⟨[], failure⟩ ∧
      (∀ e, failure = some e ↔ r.Refuses request e) ∧
      ∀ e, failure = some e →
        r.atOnce rules (.connect request) 7 = { r with tasks := r.tasks ++ [⟨[], some e⟩] } := by
  by_cases haccepts : r.Accepts request
  · obtain ⟨r', spawned, htasks, hrun⟩ := (returns_of_accepts rules haccepts).run rfl []
    have hatOnce : r.atOnce rules (.connect request) 7 = r'.withCall ⟨[], none⟩ spawned :=
      (atOnce_eq (.connect request) 7).trans hrun
    refine ⟨none, ?_, fun e => ?_, fun e h => ?_⟩
    · rw [hatOnce, withCall, ← htasks]
      simp
    · exact iff_of_false (by simp) (haccepts e)
    · cases h
  · simp only [Accepts, not_forall, not_not] at haccepts
    obtain ⟨e, hrefuses⟩ := haccepts
    have hatOnce : r.atOnce rules (.connect request) 7 = r.withCall ⟨[], some e⟩ [] :=
      atOnce_of_refuses hrefuses 6
    refine ⟨some e, by simp [hatOnce, withCall], fun e' => ⟨fun h => ?_, fun h => ?_⟩, fun e' h => ?_⟩
    · exact Option.some_inj.mp h ▸ hrefuses
    · rw [hrefuses.unique h]
    · rw [hatOnce, Option.some_inj.mp h]
      rfl

/-- **A request that is made among others** is refused or granted as it is at some moment. -/
theorem ended_connect {later : List Action} {failure : Option ConnectError}
    (hended : (r.during rules request later).tasks[r.tasks.length]? = some ⟨[], failure⟩) :
    (∀ e, failure = some e → r.Traceless rules request later ∧
      ∃ front, front <+: later ∧ (r.during rules request front).Refuses request e) ∧
    (failure = none → ∃ front, front <+: later ∧ (r.during rules request front).Accepts request) := by
  obtain ⟨task, htask, hcourse⟩ := course_run rules r request later
  obtain rfl := Option.some_inj.mp (htask.symm.trans hended)
  cases hcourse with
  | undecided hopen => cases hopen
  | refused h htraceless =>
    refine ⟨fun e he => ?_, fun hnone => ?_⟩
    · exact ⟨htraceless, Option.some_inj.mp he ▸ h⟩
    · cases hnone
  | granted h hgranted =>
    refine ⟨fun e he => ?_, fun _ => h⟩
    cases he.symm.trans hgranted.failure

/-- **A request is refused exactly for its faults, and a refusal leaves no trace.** Made at once, the call
returns: with the first of the faults if there is one, and then nothing is changed. Made among others, it
fails only with a fault that there is at some moment of the call, and changes nothing by itself; it succeeds
only if there is a moment without any. Whatever has been requested, the usual source can be made for a link
once its negotiation has succeeded. -/
theorem refused_iff (rules : RegistryRules) (actions later : List Action) (request : Request) :
    let r := run rules {} actions
    (∃ failure, (r.atOnce rules (.connect request) 7).tasks[r.tasks.length]? = some ⟨[], failure⟩ ∧
      (∀ e, failure = some e ↔ r.Refuses request e) ∧
      ∀ e, failure = some e →
        r.atOnce rules (.connect request) 7 = { r with tasks := r.tasks ++ [⟨[], some e⟩] }) ∧
    (∀ failure, (r.during rules request later).tasks[r.tasks.length]? = some ⟨[], failure⟩ →
      (∀ e, failure = some e → r.Traceless rules request later ∧
        ∃ front, front <+: later ∧ (r.during rules request front).Refuses request e) ∧
      (failure = none → ∃ front, front <+: later ∧ (r.during rules request front).Accepts request)) ∧
    ∀ (n : Nat) (link : Link) (connection : Connection),
      (r.during rules request later).links[n]? = some link →
      link.negotiation.phase = .settled (.ok connection) ∨
        link.negotiation.phase = .reported (.ok connection) →
      defaultSource link.service.key.name link.plan.kind connection = .ok () := by
  intro r
  refine ⟨atOnce_connect rules r request, fun failure => ended_connect, ?_⟩
  intro n link connection hlink
  rw [during, ← run_append] at hlink
  exact fun hphase => (isSourced_run _ hlink).defaultSource hphase _

/-- A file without an address and a template. -/
def worthless : Request := .manual "app" { logFormat := "" }

/-- What happens between two requests for one name, of which the second has been checked first. -/
def overtaking : List Action := [.advance 1, .advance 0, .advance 0, .advance 1]

/-- A name that is taken is refused whatever else is wrong with the request, also if it has been taken since
the request was checked. -/
theorem refused_iff_taken :
    let r := run plainRules {} (connection 0)
    let raced := run plainRules {} [.call (.connect (.manual "app" { uri := "/log" }))]
    worthless.Faulty (.invalidService "invalid URI ''") ∧
      r.atOnce plainRules (.connect worthless) 7 =
        { r with tasks := r.tasks ++ [⟨[], some (.alreadyConnected worthless.key)⟩] } ∧
      raced.Traceless plainRules (.manual "app" { uri := "/log" }) overtaking := by
  intro r raced
  have hfaulty : worthless.Faulty (.invalidService "invalid URI ''") :=
    .address (Request.isServable_iff.mpr ⟨_, rfl⟩) rfl (show Uri.parse "" = .error "" by decide)
  obtain ⟨⟨failure, -, hrefuses, htrace⟩, -⟩ := refused_iff plainRules (connection 0) [] worthless
  have htaken : r.Refuses worthless (.alreadyConnected worthless.key) :=
    .taken (isConnected_iff.mp (by decide +kernel))
  obtain ⟨-, hrace, -⟩ := refused_iff plainRules [.call (.connect (.manual "app" { uri := "/log" }))]
    overtaking (.manual "app" { uri := "/log" })
  have hended : ((raced.during plainRules (.manual "app" { uri := "/log" }) overtaking).tasks[1]?).any
      (fun task => task.jobs.isEmpty && task.failure = some (.alreadyConnected worthless.key)) = true := by
    decide +kernel
  obtain ⟨⟨jobs, failure'⟩, htask, h⟩ := (Option.any_eq_true _ _).mp hended
  obtain ⟨hjobs, hfailure⟩ : jobs = [] ∧ failure' = some (.alreadyConnected worthless.key) := by
    simpa using h
  subst hjobs hfailure
  exact ⟨hfaulty, htrace _ ((hrefuses _).mpr htaken), ((hrace _ htask).1 _ rfl).1⟩

end Registry

end LogIntake
