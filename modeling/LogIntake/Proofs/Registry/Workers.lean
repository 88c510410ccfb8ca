import LogIntake.Proofs.Registry.Rest

/-!
# What has happened to the worker of a link

* `Registry.worker?`: the worker of a link.
* `Registry.Tends`: what an action does to a worker, other than handing it an input;
  **`Registry.tends_step`**, `Registry.worker?_source`.
* `Registry.HasOpened`: the source of a link has opened in a run;
  **`Registry.hasOpened_iff`**: its worker knows.
* **`Registry.asked_to_stop`**: the worker of a link in force has been asked to stop from outside only.
-/

namespace LogIntake

/-! ## One step -/

namespace Registry

variable {rules : RegistryRules} {r r' : Registry} {n k : Nat} {link : Link} {job : Job} {action : Action}
  {actions : List Action}

/-- The worker of a link. -/
def worker? (r : Registry) (n : Nat) : Option Worker :=
  ((r.links[n]?).bind Link.reception).map (·.worker)

/-- What an action that is about no worker does to one: it leaves it as it is, begins with it, or asks it to
stop. -/
inductive Tends (r : Registry) (n : Nat) : Option Worker → Option Worker → Prop
  | same {w? : Option Worker} : Tends r n w? w?
  | begun {decoder : Decoder} : Tends r n none (some { decoder })
  | signalled {w : Worker} (h : .signal n ∈ r.jobs) :
      Tends r n (some w) (some { w with signal := w.signal.close })

theorem worker?_of_links (h : r'.links[n]? = r.links[n]?) : r'.worker? n = r.worker? n := by
  rw [worker?, h]
  rfl

theorem worker?_setLink_self (hlink : r.links[n]? = some link) (f : Link → Link) :
    (r.setLink n f).worker? n = (f link).reception.map (·.worker) := by
  rw [worker?, links_setLink hlink]
  rfl

theorem worker?_eq (hlink : r.links[n]? = some link) : r.worker? n = link.reception.map (·.worker) := by
  rw [worker?, hlink]
  rfl

/-- What a job does to its link does not concern its worker, but for three jobs. -/
theorem Does.tends {x x' : Standing} {jobs : List Job} (hdoes : Does rules n job x x' jobs)
    (hs : x.Sound rules) (hsignal : job = .signal n → .signal n ∈ r.jobs) :
    Tends r n (x.link.reception.map (·.worker)) (x'.link.reception.map (·.worker)) := by
  cases hdoes with
  | launched hphase =>
    rw [hs.reception_of_settled hphase]
    exact .begun
  | departed =>
    rw [Option.map_map]
    exact .same
  | signalled =>
    cases x.link.reception with
    | none => exact .same
    | some reception => exact .signalled (hsignal rfl)
  | _ => exact .same

/-- A job about a link does not concern the worker of another. -/
theorem tends_obeys {o : Outcome} (ho : o.Obeys rules r k link job) (hlink : r.links[k]? = some link)
    (hs : (r.standing k link).Sound rules) (hsignal : job = .signal k → .signal k ∈ r.jobs) (n : Nat) :
    Tends r n (r.worker? n) (o.registry.worker? n) := by
  by_cases hn : n = k
  · subst hn
    obtain ⟨link', hlink', hdoes⟩ := ho.does
    rw [worker?_eq hlink, worker?_eq hlink']
    exact Does.tends hdoes hs hsignal
  · rw [worker?_of_links (ho.same.links n hn)]
    exact .same

theorem worker?_addLink (hnew : link.reception = none) : (r.addLink link).worker? n = r.worker? n := by
  by_cases hn : n = r.links.length
  · subst hn
    simp [worker?, addLink, hnew]
  · exact worker?_of_links (links_addLink hn)

/-- A job that is about no link leaves the workers alone. -/
theorem worker?_perform (hjob : job.link? = none) (husual : job.IsUsual) :
    (r.perform rules job).registry.worker? n = r.worker? n := by
  cases job with
  | enroll link =>
    rw [perform]
    split
    · rfl
    · exact worker?_addLink (show link.IsNew from husual).reception
  | check | detach | drain | refresh | abandon =>
    simp only [perform, whenFree]
    repeat' split
    all_goals rfl
  | _ => cases hjob

/-- A negotiation that goes on leaves the workers alone. -/
theorem tends_negotiate (hs : ∀ k link, r.links[k]? = some link → (r.standing k link).Sound rules)
    (performed : NegotiationAction) (notReport : performed ≠ .report) (k n : Nat) :
    Tends r n (r.worker? n) ((r.perform rules (.negotiate k performed)).registry.worker? n) := by
  cases hlink : r.links[k]? with
  | none =>
    rw [perform, hlink]
    exact .same
  | some link =>
    have hobeys : (r.negotiateLink rules k link performed).Obeys rules r k link
        (.negotiate k performed) := negotiateLink_obeys hlink notReport
    rw [perform, hlink]
    exact tends_obeys hobeys hlink (hs k link hlink) (by simp) n

/-- Only the worker that is handed an input goes on with it. -/
theorem worker?_feedWorker_ne (hn : k ≠ n) (input : Input) :
    (r.feedWorker rules k input).worker? n = r.worker? n := by
  refine worker?_of_links ?_
  unfold feedWorker
  repeat' split
  all_goals simp [setLink, hn]

/-- **A worker is left alone but for what it is handed**: it begins, or is asked to stop by a job. -/
theorem tends_step (ha : r.Agenda)
    (hs : ∀ k link, r.links[k]? = some link → (r.standing k link).Sound rules)
    (hother : ∀ input, action ≠ .source n input) :
    Tends r n (r.worker? n) ((r.step rules action).worker? n) := by
  cases action with
  | call call => exact .same
  | advance number =>
    show Tends r n _ ((r.advance rules number).worker? n)
    unfold advance
    split
    · next job rest hhead =>
      obtain ⟨task, htask, hjobs⟩ := Option.map_eq_some_iff.mp hhead
      have hmem : job ∈ r.jobs := mem_jobs htask (hjobs ▸ List.mem_cons_self)
      cases hjob : job.link? with
      | none =>
        have hsame : (afterJob number rest (r.perform rules job)).worker? n = r.worker? n :=
          worker?_perform hjob (ha.usual job hmem)
        rw [hsame]
        exact .same
      | some k =>
        obtain ⟨link, hlink, hobeys⟩ : ∃ link, r.links[k]? = some link ∧
            (r.perform rules job).Obeys rules r k link job := ha.obeys_next htask hjobs hjob
        exact tends_obeys hobeys hlink (hs k link hlink) (fun h => h ▸ hmem) n
    · exact .same
  | failWorker number reason =>
    show Tends r n _ ((r.failWorker rules number reason).worker? n)
    unfold failWorker
    split
    · next k worker rest hhead => exact tends_negotiate hs (.start (.error reason)) (by simp) k n
    · exact .same
  | answer k answer => exact tends_negotiate hs (.reply answer) (by simp) k n
  | source k input =>
    have hn : k ≠ n := by
      rintro rfl
      exact hother input rfl
    show Tends r n _ ((r.feedWorker rules k input).worker? n)
    rw [worker?_feedWorker_ne hn]
    exact .same

/-- **A worker goes on with what it is handed.** -/
theorem worker?_source (rules : RegistryRules) {w : Worker} (hw : r.worker? n = some w) (input : Input) :
    ∃ settings, (r.step rules (.source n input)).worker? n = some (w.step settings input) := by
  obtain ⟨reception, hreception, rfl⟩ := Option.map_eq_some_iff.mp hw
  obtain ⟨link, hlink, hlink'⟩ := Option.bind_eq_some_iff.mp hreception
  refine ⟨settingsOf rules link reception, ?_⟩
  show (r.feedWorker rules n input).worker? n = _
  unfold feedWorker
  simp only [hlink, hlink']
  exact worker?_setLink_self hlink _

theorem worker?_source_none (rules : RegistryRules) (hw : r.worker? n = none) (input : Input) :
    (r.step rules (.source n input)).worker? n = none := by
  show (r.feedWorker rules n input).worker? n = none
  unfold feedWorker
  split
  · exact hw
  · next link hlink =>
    rw [worker?_eq hlink, Option.map_eq_none_iff] at hw
    simp only [hw]
    rw [worker?_eq hlink, hw]
    rfl

/-! ## Runs -/

/-- The workers of a run, after one more step. -/
theorem tends_run (rules : RegistryRules) (actions : List Action) {n : Nat}
    (hother : ∀ input, action ≠ .source n input) :
    Tends (run rules {} actions) n ((run rules {} actions).worker? n)
      (((run rules {} actions).step rules action).worker? n) :=
  tends_step (agenda_run rules actions) (fun _ _ hlink => (upkeep_of_link hlink).1) hother

/-- The source of a link has opened in a run: it has answered so when the worker was waiting for it. -/
def HasOpened (rules : RegistryRules) (actions : List Action) (n : Nat) : Prop :=
  ∃ front back w, actions = front ++ .source n (.opened (.ok ())) :: back ∧
    (run rules {} front).worker? n = some w ∧ w.phase = .opening

theorem hasOpened_nil : ¬ HasOpened rules [] n := by
  rintro ⟨front, back, -, h, -⟩
  simp at h

theorem hasOpened_snoc : HasOpened rules (actions ++ [action]) n ↔ HasOpened rules actions n ∨
    action = .source n (.opened (.ok ())) ∧
      ∃ w, (run rules {} actions).worker? n = some w ∧ w.phase = .opening := by
  constructor
  · rintro ⟨front, back, w, hactions, hw, hphase⟩
    obtain rfl | ⟨back, last, rfl⟩ := List.eq_nil_or_concat back
    · obtain ⟨rfl, heq⟩ := List.append_inj' hactions rfl
      exact .inr ⟨List.singleton_inj.mp heq, w, hw, hphase⟩
    · rw [List.concat_eq_append, ← List.cons_append, ← List.append_assoc] at hactions
      obtain ⟨rfl, -⟩ := List.append_inj' hactions rfl
      exact .inl ⟨front, back, w, rfl, hw, hphase⟩
  · rintro (⟨front, back, w, rfl, hw, hphase⟩ | ⟨rfl, w, hw, hphase⟩)
    · exact ⟨front, back ++ [action], w, by simp, hw, hphase⟩
    · exact ⟨actions, [], w, rfl, hw, hphase⟩

/-- **A worker knows whether its source has opened.** -/
theorem hasOpened_iff (actions : List Action) (n : Nat) : HasOpened rules actions n ↔
    ∃ w, (run rules {} actions).worker? n = some w ∧ w.hasOpened = true := by
  induction actions using List.reverseRecOn with
  | nil => simp [hasOpened_nil, run, worker?]
  | append_singleton actions action ih =>
    have hafter : run rules {} (actions ++ [action]) = (run rules {} actions).step rules action :=
      run_append {} actions [action]
    rw [hasOpened_snoc, ih, hafter]
    by_cases hinput : ∃ input, action = .source n input
    · obtain ⟨input, rfl⟩ := hinput
      cases hw : (run rules {} actions).worker? n with
      | none => simp [worker?_source_none rules hw]
      | some w =>
        obtain ⟨settings, hw'⟩ := worker?_source rules hw input
        simp [hw', Worker.hasOpened_step]
    · have hother : ∀ input, action ≠ .source n input := fun input h => hinput ⟨input, h⟩
      have htends := tends_run rules actions hother
      rw [or_iff_left fun h => hother _ h.1]
      generalize (run rules {} actions).worker? n = before at htends ⊢
      generalize ((run rules {} actions).step rules action).worker? n = after at htends ⊢
      cases htends <;> simp

/-! ## Stop requests -/

/-- What is kept of a link: as long as it is in force, nobody is about to ask its worker to stop. -/
theorem notMem_signal_step {x x' : Dossier} (hstep : x.Step rules n x') (hu : x.Upkeep rules n)
    (h : x.standing.inForce = true → .signal n ∉ x.jobs) (hforce : x'.standing.inForce = true) :
    .signal n ∉ x'.jobs := by
  have hbefore : .signal n ∉ x.jobs := h (hstep.inForce hforce)
  cases hstep with
  | parted => cases hforce
  | answered => exact hbefore
  | fed =>
    intro hmem
    obtain hnew | hold := Multiset.mem_add.mp hmem
    · split at hnew <;> simp at hnew
    · exact hbefore hold
  | does hdoes =>
    intro hmem
    cases hdoes with
    | waits => exact hbefore (by simpa using hmem)
    | released =>
      have hout : _ = false := hu.tended.releases (Multiset.mem_cons_self _ _)
      exact absurd (hforce.symm.trans hout) (by simp)
    | negotiates _ hjobs =>
      have hnew : Job.signal n ∉ _ :=
        Tended.notMem_of_negotiationJobs (by simp [negotiationJobs]) hjobs
      exact hbefore (Tended.mem_before hnew hmem)
    | left =>
      refine hbefore (Tended.mem_before ?_ hmem)
      split <;> simp
    | _ => exact hbefore (Tended.mem_before (by simp) hmem)

/-- **Nobody is about to ask the worker of a link in force to stop.** -/
theorem notMem_signal_run {x : Dossier} (hx : (run rules {} actions).dossier? n = some x)
    (hforce : x.standing.inForce = true) : .signal n ∉ x.jobs := by
  have hkept : x.Upkeep rules n ∧ (x.standing.inForce = true → .signal n ∉ x.jobs) := by
    refine dossier_induction (P := fun x => x.Upkeep rules n ∧
      (x.standing.inForce = true → .signal n ∉ x.jobs)) (fun x hfresh => ⟨.fresh hfresh, fun _ => ?_⟩)
      (fun x x' hstep h => ⟨h.1.step hstep, notMem_signal_step hstep h.1 h.2⟩) hx
    rw [hfresh.jobs]
    simp
  exact hkept.2 hforce

/-- **The worker of a link in force has been asked to stop from outside only.** -/
theorem asked_to_stop (actions : List Action) {w : Worker}
    (hcurrent : (run rules {} actions).isCurrent n = true)
    (hw : (run rules {} actions).worker? n = some w) (hstop : w.signal.closed = true) :
    .source n .stop ∈ actions := by
  induction actions using List.reverseRecOn generalizing w with
  | nil => simp [run, worker?] at hw
  | append_singleton actions action ih =>
    have hafter : run rules {} (actions ++ [action]) = (run rules {} actions).step rules action :=
      run_append {} actions [action]
    rw [hafter] at hcurrent hw
    obtain ⟨reception, hreception, -⟩ := Option.map_eq_some_iff.mp hw
    obtain ⟨link, hlink, hworker⟩ := Option.bind_eq_some_iff.mp hreception
    obtain ⟨x, hx, hforce⟩ : ∃ x, (run rules {} actions).dossier? n = some x ∧
        x.standing.inForce = true := by
      obtain ⟨x, hx, heq | hstep⟩ | ⟨-, hfresh⟩ :=
        (proceeds_run rules actions action).dossiers n _ (dossier?_eq hlink)
      · exact ⟨x, hx, heq ▸ hcurrent⟩
      · exact ⟨x, hx, hstep.inForce hcurrent⟩
      · cases hworker.symm.trans hfresh.link.reception
    have hbefore : (run rules {} actions).isCurrent n = true := by
      obtain ⟨link, -, rfl⟩ := Option.map_eq_some_iff.mp hx
      exact hforce
    by_cases hinput : ∃ input, action = .source n input
    · obtain ⟨input, rfl⟩ := hinput
      cases hold : (run rules {} actions).worker? n with
      | none => cases hw.symm.trans (worker?_source_none rules hold input)
      | some old =>
        obtain ⟨settings, hnext⟩ := worker?_source rules hold input
        obtain rfl : w = old.step settings input := Option.some_inj.mp (hw.symm.trans hnext)
        obtain hstop | rfl := Worker.closed_step.mp hstop
        · exact List.mem_append_left _ (ih hbefore hold hstop)
        · simp
    · have htends := tends_run rules actions fun input h => hinput ⟨input, h⟩
      refine List.mem_append_left _ ?_
      generalize hold : (run rules {} actions).worker? n = before at htends
      rw [hw] at htends
      cases htends with
      | same => exact ih hbefore hold hstop
      | begun => cases hstop
      | signalled h => exact absurd (mem_dossier?_jobs hx rfl h) (notMem_signal_run hx hforce)

end Registry

end LogIntake
