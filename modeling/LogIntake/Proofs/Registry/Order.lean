import LogIntake.Proofs.Registry.Jobs
import Mathlib.Data.List.Pairwise

/-!
# What holds of every registry

* `Registry.Roster`: no two entries have a key in common, and each has a link of its key.
* `Registry.Agenda`: the jobs are about links that there are, and stop a link before they announce that
  it is disconnected.
* `Registry.SameBut`: a registry that differs from another in one link only.
* **`Registry.Roster.sameBut`**, **`Registry.Agenda.afterJob`**: how both are kept.
-/

namespace LogIntake

/-- The link has just been asked for. -/
structure Link.IsNew (link : Link) : Prop where
  stage : link.stage = .pending
  phase : link.negotiation.phase = .fresh
  reception : link.reception = none

/-- What a job is that a task can have: the links to be registered are new, results are reported by
`launch` only, and what is announced by a job is the end of a link. -/
def Job.IsUsual : Job → Prop
  | .enroll link => link.IsNew
  | .negotiate _ .report => False
  | .announce event => event.isFarewell
  | _ => True

namespace Registry

variable {r r' : Registry} {k n : Nat} {link : Link}

/-- Whether a link has been stopped. -/
def IsStopped (r : Registry) (n : Nat) : Prop :=
  ∃ link, r.links[n]? = some link ∧ link.stage = .stopped

/-- The entries of a registry, and what it has made and told so far, agree with its links. -/
structure Roster (r : Registry) : Prop where
  distinct : r.entries.Pairwise (·.key ≠ ·.key)
  keyed : ∀ entry ∈ r.entries, ∃ link,
    r.links[entry.link]? = some link ∧ link.service.key = entry.key
  made : ∀ creation ∈ r.creations, creation.1 < r.links.length
  told : ∀ event ∈ r.events, event.link < r.links.length

/-- The tasks of a registry are in order. -/
structure Agenda (r : Registry) : Prop where
  known : ∀ job ∈ r.jobs, ∀ n, job.link? = some n → n < r.links.length
  usual : ∀ job ∈ r.jobs, job.IsUsual
  stopsFirst : ∀ task ∈ r.tasks, StopsFirst r.IsStopped task.jobs

/-- A task at its next job. -/
theorem Agenda.stopsFirst_next (h : r.Agenda) {number : Nat} {task : Task} {job : Job}
    {rest : List Job} (htask : r.tasks[number]? = some task) (hjobs : task.jobs = job :: rest) :
    StopsFirst r.IsStopped (job :: rest) :=
  hjobs ▸ h.stopsFirst task (List.mem_of_getElem? htask)

theorem isStopped_of_links (hlinks : r'.links = r.links) : r'.IsStopped = r.IsStopped := by
  funext n
  rw [IsStopped, hlinks]
  rfl

/-! ## Entries -/

theorem Roster.key_inj (h : r.Roster) {entry other : Entry} (hentry : entry ∈ r.entries)
    (hother : other ∈ r.entries) (hkey : entry.key = other.key) : entry = other := by
  have : Std.Symm fun entry other : Entry => entry.key ≠ other.key := ⟨fun _ _ => Ne.symm⟩
  by_contra hne
  exact h.distinct.forall hentry hother hne hkey

theorem Roster.link_inj (h : r.Roster) {entry other : Entry} (hentry : entry ∈ r.entries)
    (hother : other ∈ r.entries) (hlink : entry.link = other.link) : entry = other := by
  obtain ⟨link, hget, hkey⟩ := h.keyed entry hentry
  obtain ⟨link', hget', hkey'⟩ := h.keyed other hother
  have heq : link = link' := Option.some_inj.mp (hget.symm.trans (hlink ▸ hget'))
  exact h.key_inj hentry hother (by rw [← hkey, ← hkey', heq])

theorem isCurrent_iff : r.isCurrent n = true ↔ ∃ entry ∈ r.entries, entry.link = n := by
  simp [isCurrent]

theorem find?_eq_some {key : ServiceKey} {entry : Entry} (h : r.find? key = some entry) :
    entry ∈ r.entries ∧ entry.key = key :=
  ⟨List.mem_of_find?_eq_some h, by simpa using List.find?_some h⟩

theorem not_isConnected {key : ServiceKey} (h : ¬ r.isConnected key = true) :
    ∀ entry ∈ r.entries, entry.key ≠ key := by
  simpa [isConnected, find?] using h

theorem insert_perm (entry : Entry) (entries : List Entry) :
    (entry.insert entries).Perm (entry :: entries) :=
  List.perm_middle.trans ((List.filter_append_perm _ entries).cons entry)

/-! ## Registries that differ in one link -/

/-- A registry that differs from another in one link only: the link remains, of the same service, and
stopped if it has been, may be taken out of force, and more may be made and told of it. -/
structure SameBut (k : Nat) (r r' : Registry) : Prop where
  length : r'.links.length = r.links.length
  links : ∀ n, n ≠ k → r'.links[n]? = r.links[n]?
  link : ∀ link, r.links[k]? = some link → ∃ link', r'.links[k]? = some link' ∧
    link'.service = link.service ∧ (link.stage = .stopped → link'.stage = .stopped)
  tasks : r'.tasks = r.tasks
  entries : r'.entries.Sublist r.entries
  others : ∀ entry ∈ r.entries, entry.link ≠ k → entry ∈ r'.entries
  creations : ∃ made : List Connection, r'.creations = r.creations ++ made.map (k, ·)
  events : ∃ told : List RegistryEvent, r'.events = r.events ++ told ∧ ∀ event ∈ told, event.link = k

theorem links_setLink (hlink : r.links[k]? = some link) (f : Link → Link) :
    (r.setLink k f).links[k]? = some (f link) := by
  simp [setLink, hlink]

namespace SameBut

protected theorem refl (k : Nat) (r : Registry) : SameBut k r r where
  length := rfl
  links _ _ := rfl
  link link hlink := ⟨link, hlink, rfl, id⟩
  tasks := rfl
  entries := .refl _
  others _ hentry _ := hentry
  creations := ⟨[], by simp⟩
  events := ⟨[], by simp⟩

/-- The link is changed. -/
theorem setLink (h : SameBut k r r') (hlink : r'.links[k]? = some link) {f : Link → Link}
    (hservice : (f link).service = link.service)
    (hstage : link.stage = .stopped → (f link).stage = .stopped) : SameBut k r (r'.setLink k f) :=
  { h with
    length := by rw [← h.length]; simp [Registry.setLink]
    links := fun n hn => by
      rw [← h.links n hn]
      simp [Registry.setLink, Ne.symm hn]
    link := fun old hold => by
      obtain ⟨link', hlink', hsame, hstopped⟩ := h.link old hold
      obtain rfl : link' = link := Option.some_inj.mp (hlink'.symm.trans hlink)
      exact ⟨_, links_setLink hlink f, hservice.trans hsame, hstage ∘ hstopped⟩ }

/-- The link is taken out of force. -/
theorem dropLink (h : SameBut k r r') : SameBut k r (r'.dropLink k) :=
  { h with
    entries := List.filter_sublist.trans h.entries
    others := fun entry hentry hne =>
      List.mem_filter.mpr ⟨h.others entry hentry hne, by simpa using hne⟩ }

/-- A source is to be made for the link. -/
theorem make (h : SameBut k r r') (connection : Connection) :
    SameBut k r (r'.make k connection) :=
  { h with
    creations := by
      obtain ⟨made, hmade⟩ := h.creations
      exact ⟨made ++ [connection], by simp [Registry.make, hmade]⟩ }

/-- Something is told of the link. -/
theorem tell (h : SameBut k r r') {event : RegistryEvent} (hevent : event.link = k) :
    SameBut k r (r'.tell event) :=
  { h with
    events := by
      obtain ⟨told, htold, hlinks⟩ := h.events
      refine ⟨told ++ [event], by simp [Registry.tell, htold], ?_⟩
      simpa [or_imp, forall_and, hevent] using hlinks }

/-- What concerns no link makes no difference. -/
theorem withCache (h : SameBut k r r') (cache : CredentialCache) :
    SameBut k r { r' with cache } := { h with }

theorem withPrompts (h : SameBut k r r') (prompts : List (Nat × String)) :
    SameBut k r { r' with prompts } := { h with }

/-- Whatever is stopped remains so. -/
theorem isStopped (h : SameBut k r r') (hstopped : r.IsStopped n) : r'.IsStopped n := by
  obtain ⟨link, hlink, hstage⟩ := hstopped
  by_cases hn : n = k
  · subst hn
    obtain ⟨link', hlink', -, himp⟩ := h.link link hlink
    exact ⟨link', hlink', himp hstage⟩
  · exact ⟨link, (h.links n hn).trans hlink, hstage⟩

theorem isCurrent (h : SameBut k r r') (hn : n ≠ k) : r'.isCurrent n = r.isCurrent n := by
  rw [Bool.eq_iff_iff, isCurrent_iff, isCurrent_iff]
  constructor
  · rintro ⟨entry, hentry, hlink⟩
    exact ⟨entry, h.entries.subset hentry, hlink⟩
  · rintro ⟨entry, hentry, hlink⟩
    exact ⟨entry, h.others entry hentry (hlink ▸ hn), hlink⟩

end SameBut

/-- Every link is of the service that it has been of, and stopped if it has been. -/
theorem SameBut.service (h : SameBut k r r') (hlink : r.links[n]? = some link) :
    ∃ link', r'.links[n]? = some link' ∧ link'.service = link.service := by
  by_cases hn : n = k
  · subst hn
    obtain ⟨link', hlink', hservice, -⟩ := h.link link hlink
    exact ⟨link', hlink', hservice⟩
  · exact ⟨link, (h.links n hn).trans hlink, rfl⟩

/-- **A job about one link keeps the roster.** -/
theorem Roster.sameBut (hr : r.Roster) (h : SameBut k r r') (hk : k < r.links.length) :
    r'.Roster where
  distinct := hr.distinct.sublist h.entries
  keyed entry hentry := by
    obtain ⟨link, hlink, hkey⟩ := hr.keyed entry (h.entries.subset hentry)
    obtain ⟨link', hlink', hservice⟩ := h.service hlink
    exact ⟨link', hlink', hservice ▸ hkey⟩
  made creation hcreation := by
    obtain ⟨made, hmade⟩ := h.creations
    rw [h.length]
    rw [hmade, List.mem_append, List.mem_map] at hcreation
    obtain hold | ⟨connection, -, rfl⟩ := hcreation
    · exact hr.made creation hold
    · exact hk
  told event hevent := by
    obtain ⟨told, htold, hlinks⟩ := h.events
    rw [h.length]
    rw [htold, List.mem_append] at hevent
    obtain hold | hnew := hevent
    · exact hr.told event hold
    · exact hlinks event hnew ▸ hk

/-- **A job keeps the agenda**: what it leaves to do is in order, and all links remain. -/
theorem Agenda.afterJob {number : Nat} {task : Task} {job : Job} {rest : List Job} {o : Outcome}
    (h : r.Agenda) (htask : r.tasks[number]? = some task) (hjobs : task.jobs = job :: rest)
    (htasks : o.registry.tasks = r.tasks) (hlength : r.links.length ≤ o.registry.links.length)
    (hstopped : ∀ n, r.IsStopped n → o.registry.IsStopped n)
    (hknown : ∀ job ∈ o.next ++ o.spawned.flatten, ∀ n, job.link? = some n →
      n < o.registry.links.length)
    (husual : ∀ job ∈ o.next ++ o.spawned.flatten, job.IsUsual)
    (hnext : StopsFirst o.registry.IsStopped (o.next ++ rest))
    (hspawned : ∀ jobs ∈ o.spawned, StopsFirst o.registry.IsStopped jobs) :
    (Registry.afterJob number rest o).Agenda := by
  obtain ⟨beside, hbefore, hafter⟩ := exists_beside htask hjobs htasks
  have hmem : ∀ job' ∈ (Registry.afterJob number rest o).jobs,
      job' ∈ o.next ++ o.spawned.flatten ∨ job' ∈ r.jobs := by
    intro job' hjob'
    rw [← Multiset.mem_coe, hafter, Multiset.mem_add, Multiset.mem_coe] at hjob'
    refine hjob'.imp_right fun hbeside => ?_
    rw [← Multiset.mem_coe, hbefore]
    exact Multiset.mem_cons_of_mem hbeside
  refine ⟨fun job' hjob' n hn => ?_, fun job' hjob' => ?_, fun task' htask' => ?_⟩
  · obtain hnew | hold := hmem job' hjob'
    · exact hknown job' hnew n hn
    · exact (h.known job' hold n hn).trans_le hlength
  · obtain hnew | hold := hmem job' hjob'
    · exact husual job' hnew
    · exact h.usual job' hold
  · show StopsFirst o.registry.IsStopped task'.jobs
    obtain hold | hnew | hnew := mem_tasks_afterJob htask'
    · exact (h.stopsFirst task' (htasks ▸ hold)).mono hstopped
    · rwa [hnew]
    · exact hspawned _ hnew

end Registry

end LogIntake
