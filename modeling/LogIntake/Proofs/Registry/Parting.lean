import LogIntake.Proofs.Registry.Dossier

/-!
# What a job leaves to do

* `Registry.Proceeds`: from one registry to the next, every link is registered, goes through one of the
  things that can happen to it, or stays as it is; the roster and the agenda are kept.
* **`Registry.proceeds_obeys`**: jobs about a link.
* `Outcome.Parts`: a job takes links out of force and leaves to do what ends them;
  **`Outcome.Parts.proceeds`**.
-/

namespace LogIntake

/-! ## What a job leaves to do -/

/-- The jobs of the worker of a negotiation are about its link, and neither announce nor stop it. -/
theorem Registry.of_mem_negotiationJobs {n : Nat} {job : Job}
    (h : job ∈ Registry.negotiationJobs n) :
    job.link? = some n ∧ job.IsUsual ∧ job.event? = none ∧ job.stops? = none := by
  simp only [Registry.negotiationJobs, List.mem_cons, List.not_mem_nil, or_false] at h
  obtain rfl | rfl | rfl | rfl := h <;> exact ⟨rfl, trivial, rfl, rfl⟩

namespace Does

variable {rules : RegistryRules} {n : Nat} {job : Job} {x x' : Standing} {jobs : List Job}

/-- What is left to do is about the same link. -/
theorem link?_eq (h : Does rules n job x x' jobs) : ∀ job ∈ jobs, job.link? = some n := by
  cases h with
  | waits h => simpa using h
  | negotiates _ hjobs => exact fun job hjob => (Registry.of_mem_negotiationJobs (hjobs job hjob)).1
  | left => cases x.inForce <;> simp [Job.link?, RegistryEvent.link]
  | released => cases x.link.stage <;> simp [Registry.endingJobs, Job.link?]
  | launchesNothing | refused | late | failed | launched | confirmed | confirmsNothing | kept | cancels
  | keepsNothing | withdrawn | halted | departed | signalled | joined | announced =>
    simp [Job.link?]

theorem usual (h : Does rules n job x x' jobs) (hjob : job.IsUsual) : ∀ job ∈ jobs, job.IsUsual := by
  cases h with
  | waits => simpa using hjob
  | negotiates _ hjobs => exact fun job hjob => (Registry.of_mem_negotiationJobs (hjobs job hjob)).2.1
  | left => cases x.inForce <;> simp [Job.IsUsual, RegistryEvent.isFarewell]
  | released => cases x.link.stage <;> simp [Registry.endingJobs, Job.IsUsual]
  | launchesNothing | refused | late | failed | launched | confirmed | confirmsNothing | kept | cancels
  | keepsNothing | withdrawn | halted | departed | signalled | joined | announced =>
    simp [Job.IsUsual]

/-- Nothing is announced by the way, unless the link is stopped first. -/
theorem stopsFirst (h : Does rules n job x x' jobs) {stopped : Nat → Prop}
    (hjob : ∀ event, job.event? = some event → event.isFarewell → stopped event.link) :
    StopsFirst stopped jobs := by
  cases h with
  | waits => exact .of_forall (by simpa using hjob)
  | negotiates _ hjobs =>
    refine .of_forall fun job hjob event hevent => ?_
    rw [(Registry.of_mem_negotiationJobs (hjobs job hjob)).2.2.1] at hevent
    cases hevent
  | left => cases x.inForce <;> simp [StopsFirst, Job.event?, Job.stops?, RegistryEvent.link]
  | released => cases x.link.stage <;> simp [Registry.endingJobs, StopsFirst, Job.event?]
  | launchesNothing | refused | late | failed | launched | confirmed | confirmsNothing | kept | cancels
  | keepsNothing | withdrawn | halted | departed | signalled | joined | announced =>
    simp [StopsFirst, Job.event?]

/-- A job that stops a link has done so, unless it has to wait. -/
theorem stops (h : Does rules n job x x' jobs) {m : Nat} (hstops : job.stops? = some m) :
    m = n ∧ (x'.link.stage = .stopped ∨ jobs = [job]) := by
  cases h with
  | waits h =>
    refine ⟨?_, .inr rfl⟩
    cases job with
    | release | halt => exact Option.some_inj.mp (hstops.symm.trans h)
    | _ => cases hstops
  | halted | released => exact ⟨(Option.some_inj.mp hstops).symm, .inl rfl⟩
  | _ => cases hstops

end Does

/-- What is left to do for a link out of force is about it. -/
theorem of_mem_partingJobs {joins : Bool} {n : Nat} {service : Service} {job : Job}
    (h : job ∈ partingJobs joins n service) : job.link? = some n ∧ job.IsUsual := by
  have hmem : job = .release n ∨ job = .join n ∨ job = .announce (.disconnected n service) := by
    cases joins <;> simp [partingJobs] at h <;> tauto
  obtain rfl | rfl | rfl := hmem
  · exact ⟨rfl, trivial⟩
  · exact ⟨rfl, trivial⟩
  · exact ⟨rfl, rfl⟩

/-- The outcome of a job that takes the links of some entries out of force, and leaves to do what ends
them. Their workers may be waited for. -/
structure Outcome.Parts (joins : Bool) (r : Registry) (p : Entry → Bool) (o : Outcome) : Prop where
  registry : o.registry = { r with entries := r.entries.filter (!p ·) }
  spawned : o.spawned = []
  parted : ∀ entry ∈ r.entries, p entry = true →
    o.next.filter (·.link? = some entry.link) = partingJobs joins entry.link entry.service
  others : ∀ job ∈ o.next, ∃ entry ∈ r.entries, p entry = true ∧
    job ∈ partingJobs joins entry.link entry.service
  stopsFirst : ∀ stopped, StopsFirst stopped o.next

/-- A link has just been registered: it is in force and about to negotiate. -/
structure Dossier.IsFresh (n : Nat) (x : Dossier) : Prop where
  link : x.standing.link.IsNew
  inForce : x.standing.inForce = true
  made : x.standing.made = []
  told : x.standing.told = []
  jobs : x.jobs = ↑[Job.negotiate n (.start (.ok ())), Job.keep n]

namespace Registry

/-- From one registry to the next, every link is registered, goes through one of the things that can
happen to it, or stays as it is. The roster and the agenda are kept. -/
structure Proceeds (rules : RegistryRules) (r r' : Registry) : Prop where
  roster : r'.Roster
  agenda : r'.Agenda
  length : r.links.length ≤ r'.links.length
  dossiers : ∀ n x', r'.dossier? n = some x' →
    (∃ x, r.dossier? n = some x ∧ (x' = x ∨ Dossier.Step rules n x x')) ∨
      r.dossier? n = none ∧ x'.IsFresh n

variable {rules : RegistryRules} {r r' : Registry} {k n number : Nat} {link link' : Link} {task : Task}
  {job : Job} {rest : List Job} {o : Outcome}

theorem Roster.of_sublist (h : r.Roster) (hlinks : r'.links = r.links)
    (hentries : r'.entries.Sublist r.entries) (hcreations : r'.creations = r.creations)
    (hevents : r'.events = r.events) : r'.Roster where
  distinct := h.distinct.sublist hentries
  keyed entry hentry := hlinks ▸ h.keyed entry (hentries.subset hentry)
  made := by rw [hlinks, hcreations]; exact h.made
  told := by rw [hlinks, hevents]; exact h.told

/-- **How a job changes what there is about a link**: the job is done, and what it leaves to do about
the link is to be done beside all else. -/
theorem dossier?_afterJob (htask : r.tasks[number]? = some task) (hjobs : task.jobs = job :: rest)
    (htasks : o.registry.tasks = r.tasks) (n : Nat) : ∃ beside : Multiset Job,
    (∀ job ∈ beside, job ∈ r.jobs ∧ job.link? = some n) ∧
    r.dossier? n = (r.links[n]?).map (fun link =>
      ⟨r.standing n link, ↑([job].filter (·.link? = some n)) + beside⟩) ∧
    (afterJob number rest o).dossier? n = (o.registry.links[n]?).map fun link =>
      ⟨o.registry.standing n link,
        ↑((o.next ++ o.spawned.flatten).filter (·.link? = some n)) + beside⟩ := by
  obtain ⟨beside, hbefore, hafter⟩ := exists_beside htask hjobs htasks
  refine ⟨beside.filter (·.link? = some n), fun job hmem => ?_, ?_, ?_⟩
  · obtain ⟨hbeside, hlink⟩ := Multiset.mem_filter.mp hmem
    refine ⟨?_, hlink⟩
    rw [← Multiset.mem_coe, hbefore]
    exact Multiset.mem_cons_of_mem hbeside
  · rw [dossier?, ← Multiset.filter_coe, hbefore, ← Multiset.singleton_add, ← Multiset.coe_singleton,
      Multiset.filter_add, Multiset.filter_coe]
  · rw [dossier?, ← Multiset.filter_coe, hafter, Multiset.filter_add, Multiset.filter_coe]
    rfl

/-- A job about a link leaves the dossiers of other links, and takes its own one step further. -/
theorem dossiers_obeys (htask : r.tasks[number]? = some task)
    (hjobs : task.jobs = job :: rest) (hjob : job.link? = some k) (hlink : r.links[k]? = some link)
    (ho : o.Obeys rules r k link job) {x' : Dossier}
    (hx' : (afterJob number rest o).dossier? n = some x') :
    ∃ x, r.dossier? n = some x ∧ (x' = x ∨ Dossier.Step rules n x x') := by
  obtain ⟨beside, -, hbefore, hafter⟩ := dossier?_afterJob htask hjobs ho.same.tasks n
  obtain ⟨link', hlink', hdoes⟩ := ho.does
  by_cases hn : n = k
  · subst hn
    have hall : (o.next ++ o.spawned.flatten).filter (·.link? = some n) =
        o.next ++ o.spawned.flatten :=
      List.filter_eq_self.mpr fun job hmem => by simpa using hdoes.link?_eq job hmem
    have hself : [job].filter (·.link? = some n) = [job] := by simp [hjob]
    rw [hlink, hself] at hbefore
    rw [hlink', hall, hx'] at hafter
    obtain rfl := Option.some_inj.mp hafter
    exact ⟨_, hbefore, .inr (.does hdoes)⟩
  · have hnone : (o.next ++ o.spawned.flatten).filter (·.link? = some n) = [] :=
      List.filter_eq_nil_iff.mpr fun job hmem => by
        simpa [hdoes.link?_eq job hmem] using Ne.symm hn
    have hself : [job].filter (·.link? = some n) = [] := by simpa [hjob] using Ne.symm hn
    rw [hself] at hbefore
    rw [hnone, ho.same.links n hn, hx'] at hafter
    refine ⟨x', ?_, .inl rfl⟩
    rw [hbefore, hafter]
    simp only [ho.same.standing hn]

/-- **A job about a link keeps the agenda.** -/
theorem Agenda.obeys (h : r.Agenda) (htask : r.tasks[number]? = some task)
    (hjobs : task.jobs = job :: rest) (hlink : r.links[k]? = some link)
    (ho : o.Obeys rules r k link job) : (Registry.afterJob number rest o).Agenda := by
  obtain ⟨link', hlink', hdoes⟩ := ho.does
  have hlt : k < o.registry.links.length := (List.getElem?_eq_some_iff.mp hlink').1
  have hfirst : StopsFirst r.IsStopped (job :: rest) := h.stopsFirst_next htask hjobs
  have husual : job.IsUsual := h.usual job (mem_jobs htask (hjobs ▸ List.mem_cons_self))
  have hevent : ∀ event, job.event? = some event → event.isFarewell →
      o.registry.IsStopped event.link :=
    fun event hevent hfarewell => ho.same.isStopped (hfirst.1 event hevent hfarewell)
  have hnext : StopsFirst o.registry.IsStopped o.next :=
    (StopsFirst.append_iff.mp (hdoes.stopsFirst hevent)).1
  have hstops : ∀ m, job.stops? = some m ∨ r.IsStopped m →
      (∃ job ∈ o.next, job.stops? = some m) ∨ o.registry.IsStopped m := by
    rintro m (hm | hm)
    · obtain ⟨rfl, hstage | hwaits⟩ := hdoes.stops hm
      · exact .inr ⟨link', hlink', hstage⟩
      · have hmem : job ∈ o.next ++ o.spawned.flatten := hwaits ▸ List.mem_cons_self
        obtain hmem | hmem := List.mem_append.mp hmem
        · exact .inl ⟨job, hmem, hm⟩
        · obtain ⟨jobs, hspawned, hmem⟩ := List.mem_flatten.mp hmem
          rw [ho.spawned jobs hspawned] at hmem
          rw [(of_mem_negotiationJobs hmem).2.2.2] at hm
          cases hm
    · exact .inr (ho.same.isStopped hm)
  refine h.afterJob htask hjobs ho.same.tasks ho.same.length.ge (fun _ => ho.same.isStopped)
    (fun job hjob m hm => ?_) (hdoes.usual husual)
    (StopsFirst.append_iff.mpr ⟨hnext, hfirst.2.mono hstops⟩) fun jobs hspawned => ?_
  · rw [hdoes.link?_eq job hjob] at hm
    exact Option.some_inj.mp hm ▸ hlt
  · rw [ho.spawned jobs hspawned]
    exact .of_forall fun job hjob event hevent => by
      rw [(of_mem_negotiationJobs hjob).2.2.1] at hevent
      cases hevent

/-- **A job about a link proceeds with it.** -/
theorem proceeds_obeys (hr : r.Roster) (ha : r.Agenda) (htask : r.tasks[number]? = some task)
    (hjobs : task.jobs = job :: rest) (hjob : job.link? = some k) (hlink : r.links[k]? = some link)
    (ho : o.Obeys rules r k link job) : Proceeds rules r (Registry.afterJob number rest o) where
  roster := (hr.sameBut ho.same (List.getElem?_eq_some_iff.mp hlink).1).of_sublist rfl (.refl _) rfl rfl
  agenda := ha.obeys htask hjobs hlink ho
  length := ho.same.length.ge
  dossiers _ _ hx' := .inl (dossiers_obeys htask hjobs hjob hlink ho hx')

/-! ## Links that are taken out of force by a job about their key or all links -/

theorem Roster.filter_link (h : r.Roster) {entry : Entry} (hentry : entry ∈ r.entries) :
    r.entries.filter (·.link = entry.link) = [entry] := by
  have hnodup : r.entries.Nodup := h.distinct.imp fun hkey heq => hkey (congrArg Entry.key heq)
  have hmem : ∀ other, other ∈ r.entries.filter (·.link = entry.link) ↔ other ∈ [entry] := by
    intro other
    rw [List.mem_filter, List.mem_singleton, decide_eq_true_eq]
    constructor
    · rintro ⟨hother, hlink⟩
      exact h.link_inj hother hentry hlink
    · rintro rfl
      exact ⟨hentry, rfl⟩
  exact List.perm_singleton.mp
    ((List.perm_ext_iff_of_nodup (hnodup.filter _) (List.nodup_singleton _)).mpr hmem)

theorem stopsFirst_partingJobs (stopped : Nat → Prop) (joins : Bool) (n : Nat) (service : Service) :
    StopsFirst stopped (partingJobs joins n service) := by
  cases joins <;> simp [partingJobs, StopsFirst, Job.event?, Job.stops?, RegistryEvent.link]

/-- The link of one entry is taken out of force. -/
theorem parts_single (hr : r.Roster) {key : ServiceKey} {entry : Entry}
    (hfind : r.find? key = some entry) (joins : Bool) :
    Outcome.Parts joins r (·.key = key)
      { registry := { r with entries := r.entries.filter (·.key ≠ key) }
        next := partingJobs joins entry.link entry.service } := by
  obtain ⟨hmem, hkey⟩ := find?_eq_some hfind
  refine ⟨by simp, rfl, fun other hother hp => ?_, fun job hjob => ?_, fun stopped => ?_⟩
  · obtain rfl : other = entry :=
      hr.key_inj hother hmem ((of_decide_eq_true hp).trans hkey.symm)
    exact List.filter_eq_self.mpr fun job hjob => by simp [(of_mem_partingJobs hjob).1]
  · exact ⟨entry, hmem, decide_eq_true hkey, hjob⟩
  · exact stopsFirst_partingJobs stopped joins _ _

/-- All links are taken out of force. -/
theorem parts_drain (rules : RegistryRules) (hr : r.Roster) :
    (r.perform rules .drain).Parts true r (fun _ => true) := by
  rw [perform]
  refine ⟨by simp, rfl, fun entry hentry _ => ?_, fun job hjob => ?_, fun stopped => ?_⟩
  · have hself := hr.filter_link hentry
    simp only [List.filter_append, List.filter_map, Function.comp_def, Job.link?, RegistryEvent.link,
      Option.some_inj, hself]
    rfl
  · simp only [List.mem_append, List.mem_map] at hjob
    obtain (⟨entry, hentry, rfl⟩ | ⟨entry, hentry, rfl⟩) | ⟨entry, hentry, rfl⟩ := hjob
    · exact ⟨entry, hentry, rfl, by simp [partingJobs]⟩
    · exact ⟨entry, hentry, rfl, by simp [partingJobs]⟩
    · exact ⟨entry, hentry, rfl, by simp [partingJobs]⟩
  · -- every link is stopped by the first part of the jobs, so that it may be announced by the last
    rw [List.append_assoc, StopsFirst.append_iff]
    refine ⟨.of_forall fun job hjob event hevent => ?_, .of_forall fun job hjob event hevent _ => ?_⟩
    · obtain ⟨entry, -, rfl⟩ := List.mem_map.mp hjob
      cases hevent
    · obtain hjob | hjob := List.mem_append.mp hjob
      · obtain ⟨entry, -, rfl⟩ := List.mem_map.mp hjob
        cases hevent
      · obtain ⟨entry, hentry, rfl⟩ := List.mem_map.mp hjob
        cases hevent
        exact .inl ⟨_, List.mem_map.mpr ⟨entry, hentry, rfl⟩, rfl⟩

end Registry

namespace Outcome.Parts

open Registry

variable {rules : RegistryRules} {r : Registry} {n number : Nat} {task : Task} {job : Job}
  {rest : List Job} {o : Outcome} {joins : Bool} {p : Entry → Bool}

theorem links (ho : o.Parts joins r p) : o.registry.links = r.links := by rw [ho.registry]

theorem tasks (ho : o.Parts joins r p) : o.registry.tasks = r.tasks := by rw [ho.registry]

/-- The link of an entry that is taken out is no longer in force. -/
theorem standing_gone (ho : o.Parts joins r p) (hr : r.Roster) {entry : Entry}
    (hentry : entry ∈ r.entries) (hp : p entry = true) (link : Link) :
    o.registry.standing entry.link link =
      { r.standing entry.link link with inForce := false } := by
  have hgone : o.registry.isCurrent entry.link = false := by
    rw [← Bool.not_eq_true, isCurrent_iff, ho.registry]
    rintro ⟨other, hother, hsame⟩
    obtain ⟨hother, hnp⟩ := List.mem_filter.mp hother
    rw [hr.link_inj hother hentry hsame, hp] at hnp
    cases hnp
  simp only [standing, madeFor, toldOf, hgone]
  rw [ho.registry]

/-- A link none of whose entries is taken out stays as it is. -/
theorem standing_kept (ho : o.Parts joins r p)
    (hn : ¬ ∃ entry ∈ r.entries, p entry = true ∧ entry.link = n) (link : Link) :
    o.registry.standing n link = r.standing n link := by
  have hkept : o.registry.isCurrent n = r.isCurrent n := by
    rw [Bool.eq_iff_iff, isCurrent_iff, isCurrent_iff, ho.registry]
    constructor
    · rintro ⟨entry, hentry, hlink⟩
      exact ⟨entry, List.mem_of_mem_filter hentry, hlink⟩
    · rintro ⟨entry, hentry, hlink⟩
      refine ⟨entry, List.mem_filter.mpr ⟨hentry, ?_⟩, hlink⟩
      by_contra hp
      exact hn ⟨entry, hentry, by simpa using hp, hlink⟩
  simp only [standing, madeFor, toldOf, hkept]
  rw [ho.registry]

theorem roster (ho : o.Parts joins r p) (hr : r.Roster) : o.registry.Roster := by
  rw [ho.registry]
  exact hr.of_sublist rfl List.filter_sublist rfl rfl

theorem agenda (ho : o.Parts joins r p) (hr : r.Roster) (ha : r.Agenda)
    (htask : r.tasks[number]? = some task) (hjobs : task.jobs = job :: rest)
    (hstops : job.stops? = none) : (afterJob number rest o).Agenda := by
  have hstopped : o.registry.IsStopped = r.IsStopped := isStopped_of_links ho.links
  have hfirst : StopsFirst r.IsStopped (job :: rest) := ha.stopsFirst_next htask hjobs
  have hnew : ∀ job ∈ o.next ++ o.spawned.flatten, ∃ entry ∈ r.entries,
      job ∈ partingJobs joins entry.link entry.service := by
    intro job hmem
    rw [ho.spawned, List.flatten_nil, List.append_nil] at hmem
    obtain ⟨entry, hentry, -, hparting⟩ := ho.others job hmem
    exact ⟨entry, hentry, hparting⟩
  refine ha.afterJob htask hjobs ho.tasks (by rw [ho.links]) (by simp [hstopped])
    (fun job hmem n hn => ?_) (fun job hmem => ?_) ?_ (by simp [ho.spawned])
  · obtain ⟨entry, hentry, hparting⟩ := hnew job hmem
    obtain ⟨link, hlink, -⟩ := hr.keyed entry hentry
    rw [(of_mem_partingJobs hparting).1] at hn
    rw [ho.links, ← Option.some_inj.mp hn]
    exact (List.getElem?_eq_some_iff.mp hlink).1
  · obtain ⟨entry, -, hparting⟩ := hnew job hmem
    exact (of_mem_partingJobs hparting).2
  · rw [hstopped]
    refine (ho.stopsFirst _).append (hfirst.2.mono fun m hm => ?_)
    simpa [hstops] using hm

theorem dossiers (ho : o.Parts joins r p) (hr : r.Roster) (htask : r.tasks[number]? = some task)
    (hjobs : task.jobs = job :: rest) (hjob : job.link? = none) {x' : Dossier}
    (hx' : (afterJob number rest o).dossier? n = some x') :
    ∃ x, r.dossier? n = some x ∧ (x' = x ∨ Dossier.Step rules n x x') := by
  obtain ⟨beside, -, hbefore, hafter⟩ := dossier?_afterJob htask hjobs ho.tasks n
  have hself : [job].filter (·.link? = some n) = [] := by simp [hjob]
  rw [hself, Multiset.coe_nil, zero_add] at hbefore
  rw [hx', ho.links, ho.spawned, List.flatten_nil, List.append_nil] at hafter
  obtain ⟨link, hlink, rfl⟩ := Option.map_eq_some_iff.mp hafter.symm
  refine ⟨⟨r.standing n link, beside⟩, by rw [hbefore, hlink]; rfl, ?_⟩
  by_cases hn : ∃ entry ∈ r.entries, p entry = true ∧ entry.link = n
  · obtain ⟨entry, hentry, hp, rfl⟩ := hn
    obtain ⟨link', hlink', hkey⟩ := hr.keyed entry hentry
    obtain rfl : link = link' := Option.some_inj.mp (hlink.symm.trans hlink')
    rw [ho.parted entry hentry hp, ho.standing_gone hr hentry hp]
    exact .inr (.parted joins (isCurrent_iff.mpr ⟨entry, hentry, rfl⟩) hkey.symm)
  · have hnone : o.next.filter (·.link? = some n) = [] := by
      refine List.filter_eq_nil_iff.mpr fun job hmem => ?_
      obtain ⟨entry, hentry, hp, hparting⟩ := ho.others job hmem
      rw [(of_mem_partingJobs hparting).1, decide_eq_true_eq, Option.some_inj]
      exact fun heq => hn ⟨entry, hentry, hp, heq⟩
    rw [hnone, ho.standing_kept hn, Multiset.coe_nil, zero_add]
    exact .inl rfl

/-- **Links that are taken out of force are to be ended**, and all others stay as they are. -/
theorem proceeds (ho : o.Parts joins r p) (hr : r.Roster) (ha : r.Agenda)
    (htask : r.tasks[number]? = some task) (hjobs : task.jobs = job :: rest)
    (hjob : job.link? = none) (hstops : job.stops? = none) :
    Proceeds rules r (afterJob number rest o) where
  roster := (ho.roster hr).of_sublist rfl (.refl _) rfl rfl
  agenda := ho.agenda hr ha htask hjobs hstops
  length := ho.links.symm ▸ le_rfl
  dossiers _ _ hx' := .inl (ho.dossiers hr htask hjobs hjob hx')

end Outcome.Parts

end LogIntake
