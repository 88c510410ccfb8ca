import LogIntake.Proofs.Registry.Calls
import LogIntake.Proofs.Registry.Workers

/-!
# Services that go

* `Registry.GoesOn`: the worker of a link goes on; `Registry.goesOn_of_isCurrent`.
* `Registry.Abandons`: how a link is stopped that is abandoned.
* `Registry.Position`: where a link in force stands; `Registry.position_of_isCurrent`.
* `Registry.Fate`: what becomes of the link of a service that has gone; **`Registry.fate_of_removed`**.
* `Registry.SparesOthers`: no link of another key is touched; `Registry.atOnce_resolved`: a service that is
  found again is only refreshed.
* **`Registry.kept_iff_opened`**: a service that has gone keeps its link exactly if the source has opened.
-/

namespace LogIntake.Registry

variable {rules : RegistryRules} {r : Registry} {actions : List Action} {key : ServiceKey} {entry : Entry}
  {link : Link} {n : Nat}

/-! ## What becomes of a link -/

/-- The worker of a link goes on: its thread has not ended, and nobody has asked it to stop, but perhaps
from outside. -/
structure GoesOn (r : Registry) (actions : List Action) (n : Nat) (link : Link) : Prop where
  running : link.stage = .running
  working : ∃ reception, link.reception = some reception ∧ reception.exited = false ∧
    (reception.worker.signal.closed = true → .source n .stop ∈ actions) ∧
    (reception.worker.phase = .done → .leave n ∈ r.jobs)

/-- How a link is stopped that is abandoned: its negotiation is cancelled, by the call that has begun it if
that is still to look at the link, or its worker is asked to stop. -/
inductive Abandons (r : Registry) (n : Nat) (link : Link) : Link → Prop
  | pending (hstage : link.stage = .pending) (hkeep : .keep n ∈ r.jobs) :
      Abandons r n link { link with stage := .stopped }
  | negotiating (hstage : link.stage = .negotiating) :
      Abandons r n link
        { link with
          stage := .stopped
          negotiation.answer := link.negotiation.answer.or (some .cancelled) }
  | running {reception : Reception} (hstage : link.stage = .running)
      (hreception : link.reception = some reception) :
      Abandons r n link
        { link with
          stage := .stopped
          reception := some
            { reception with
              worker := { reception.worker with signal := reception.worker.signal.close } } }

/-- A registry with the task of a call that has returned. -/
def returned (r : Registry) : Registry := r.withCall ⟨[], none⟩ []

/-- A registry that has taken the link of an entry out of force, with what has become of the link. -/
def parted (r : Registry) (entry : Entry) (link : Link) : Registry :=
  { r with
    entries := r.entries.filter (·.key ≠ entry.key)
    links := r.links.set entry.link link }

/-- A registry that has abandoned the link of an entry and told so, with what has become of the link. -/
def abandoned (r : Registry) (entry : Entry) (link : Link) : Registry :=
  (r.parted entry link).tell (.disconnected entry.link entry.service)

theorem setLink_eq (hlink : r.links[n]? = some link) (f : Link → Link) :
    r.setLink n f = { r with links := r.links.set n (f link) } := by
  rw [setLink, List.modify_eq_set_getElem?, hlink]
  rfl

theorem parted_self (hlink : r.links[entry.link]? = some link) :
    { r with entries := r.entries.filter (·.key ≠ entry.key) } = r.parted entry link := by
  obtain ⟨hlt, rfl⟩ := List.getElem?_eq_some_iff.mp hlink
  rw [parted, List.set_getElem_self]

theorem links_parted (hlink : r.links[entry.link]? = some link) (link' : Link) :
    (r.parted entry link').links[entry.link]? = some link' :=
  List.getElem?_set_self (List.getElem?_eq_some_iff.mp hlink).1

theorem setLink_parted (hlink : r.links[entry.link]? = some link) (link' : Link) (f : Link → Link) :
    (r.parted entry link').setLink entry.link f = r.parted entry (f link') := by
  rw [setLink_eq (links_parted hlink link')]
  simp only [parted, List.set_set]

/-! ## Links in force -/

/-- Where a link in force stands. -/
inductive Position (r : Registry) (n : Nat) (link : Link) : Prop
  | pending (hstage : link.stage = .pending) (hreception : link.reception = none) (hkeep : .keep n ∈ r.jobs)
  | negotiating (hstage : link.stage = .negotiating) (hreception : link.reception = none)
  | launching (hstage : link.stage = .launching) (hconfirm : .confirm n ∈ r.jobs)
  | running {reception : Reception} (hstage : link.stage = .running)
      (hreception : link.reception = some reception) (hexited : reception.exited = false)
  /-- Its source could not be made. -/
  | withdrawn (hstage : link.stage = .stopped) (hreception : link.reception = none)
      (hwithdraw : .withdraw n ∈ r.jobs)

theorem position_of_isCurrent (hlink : (run rules {} actions).links[n]? = some link)
    (hcurrent : (run rules {} actions).isCurrent n = true) : (run rules {} actions).Position n link := by
  obtain ⟨hs, ht⟩ := upkeep_of_link hlink
  have hx := dossier?_eq hlink
  have hnone : link.stage = .pending ∨ link.stage = .negotiating → link.reception = none := by
    intro hstage
    by_contra hne
    obtain ⟨reception, hreception⟩ := Option.ne_none_iff_exists'.mp hne
    obtain ⟨-, -, h⟩ := hs.received reception hreception
    simp only [standing] at h
    obtain hstage | hstage := hstage <;> simp [hstage] at h
  obtain ⟨hstage | hstage, -⟩ | hstage | hstage | hwithdraw := ht.inForce hcurrent
  · exact .pending hstage (hnone (.inl hstage)) (mem_of_dossier? hx (ht.pending hstage))
  · exact .negotiating hstage (hnone (.inr hstage))
  · exact .launching hstage (mem_of_dossier? hx (ht.launching hstage))
  · obtain ⟨reception, hreception⟩ := hs.working (.inr hstage)
    refine .running hstage hreception (Bool.eq_false_iff.mpr fun hexited => ?_)
    cases hcurrent.symm.trans (ht.exited reception hreception hexited)
  · obtain ⟨hstage, hreception, -⟩ := ht.withdraws hwithdraw
    exact .withdrawn hstage hreception (mem_of_dossier? hx hwithdraw)

/-- The source of a link has opened if its worker knows. -/
theorem hasOpened_iff_reception (hlink : (run rules {} actions).links[n]? = some link) :
    HasOpened rules actions n ↔
      ∃ reception, link.reception = some reception ∧ reception.worker.hasOpened = true := by
  rw [hasOpened_iff, worker?_eq hlink]
  simp

/-- **The worker of a running link in force goes on.** -/
theorem goesOn_of_isCurrent {reception : Reception} (hlink : (run rules {} actions).links[n]? = some link)
    (hcurrent : (run rules {} actions).isCurrent n = true) (hstage : link.stage = .running)
    (hreception : link.reception = some reception) (hexited : reception.exited = false) :
    (run rules {} actions).GoesOn actions n link := by
  obtain ⟨-, ht⟩ := upkeep_of_link hlink
  refine ⟨hstage, reception, hreception, hexited, fun hstop => ?_, fun hdone => ?_⟩
  · exact asked_to_stop actions hcurrent (by rw [worker?_eq hlink, hreception]; rfl) hstop
  · obtain h | h | h := ht.done reception hreception hdone
    · cases hexited.symm.trans h
    · exact mem_of_dossier? (dossier?_eq hlink) h
    · cases hcurrent.symm.trans (ht.departs h).1

/-! ## A service that has gone -/

/-- A registry leaves a link alone that it does not abandon. -/
theorem atOnce_removed_of_perform (hperform : r.perform rules (.abandon key) = { registry := r }) :
    r.atOnce rules (.removed key) 4 = r.returned := by
  rw [atOnce_eq, Call.job, run_withCall_of hperform rfl]
  exact run_withCall_nil rfl 3

/-- A link that is launched lets the call wait. -/
theorem atOnce_removed_of_waits
    (hperform : r.perform rules (.abandon key) = { registry := r, next := [.abandon key] }) (n : Nat) :
    r.atOnce rules (.removed key) n = r.withCall ⟨[.abandon key], none⟩ [] := by
  rw [atOnce_eq, Call.job]
  induction n with
  | zero => rfl
  | succ n ih => rw [run_withCall_of hperform rfl, List.append_nil, ih]

theorem perform_release (rules : RegistryRules) (hlink : r.links[n]? = some link)
    (hlaunching : link.stage ≠ .launching) :
    r.perform rules (.release n) =
      { registry := r.setStage n .stopped, next := endingJobs n link.stage } := by
  rw [perform, whenFree, hlink]
  exact if_neg hlaunching

theorem perform_reply (rules : RegistryRules) (hlink : r.links[n]? = some link)
    (answer : CredentialAnswer) : r.perform rules (.negotiate n (.reply answer)) =
      { registry := r.setLink n fun link' => { link' with negotiation :=
          { link.negotiation with answer := link.negotiation.answer.or (some answer) } } } := by
  rw [perform, hlink]
  rfl

/-- **A link that is abandoned is taken out of force and stopped.** -/
theorem atOnce_removed_of_abandons (hposition : r.Position entry.link link)
    (hlink : r.links[entry.link]? = some link)
    (hperform : r.perform rules (.abandon entry.key) =
      { registry := { r with entries := r.entries.filter (·.key ≠ entry.key) }
        next := partingJobs false entry.link entry.service })
    (hlaunching : link.stage ≠ .launching) (hstopped : link.stage ≠ .stopped) :
    ∃ link', r.Abandons entry.link link link' ∧
      r.atOnce rules (.removed entry.key) 4 = (r.abandoned entry link').returned := by
  have hrelease : (r.parted entry link).perform rules (.release entry.link) =
      { registry := r.parted entry { link with stage := .stopped }
        next := endingJobs entry.link link.stage } := by
    rw [perform_release rules (links_parted hlink link) hlaunching, setStage, setLink_parted hlink]
  have hreleased : (r.parted entry { link with stage := .stopped }).links[entry.link]? =
      some { link with stage := .stopped } := links_parted hlink _
  have htasks : ∀ link', r.tasks.length = (r.parted entry link').tasks.length := fun _ => rfl
  rw [parted_self hlink] at hperform
  rw [atOnce_eq, Call.job, run_withCall_of hperform rfl, partingJobs, if_neg Bool.false_ne_true,
    List.append_nil, List.cons_append, List.nil_append, run_withCall_of hrelease (htasks link)]
  cases hposition with
  | launching hstage => exact absurd hstage hlaunching
  | withdrawn hstage => contradiction
  | pending hstage _ hkeep =>
    refine ⟨_, .pending hstage hkeep, ?_⟩
    rw [hstage, endingJobs, List.nil_append, run_withCall_of rfl (htasks _)]
    exact run_withCall_nil rfl 1
  | negotiating hstage =>
    refine ⟨_, .negotiating hstage, ?_⟩
    have hcancel := perform_reply rules hreleased .cancelled
    rw [setLink_parted hlink] at hcancel
    rw [hstage, endingJobs, List.cons_append, run_withCall_of hcancel (htasks _), List.nil_append,
      List.nil_append, run_withCall_of rfl (htasks _)]
    rfl
  | @running reception hstage hreception =>
    refine ⟨_, .running hstage hreception, ?_⟩
    have hsignal : (r.parted entry { link with stage := .stopped }).perform rules (.signal entry.link) =
        { registry := r.parted entry
            { link with
              stage := .stopped
              reception := some
                { reception with
                  worker := { reception.worker with signal := reception.worker.signal.close } } } } := by
      rw [perform, setLink_parted hlink]
      simp only [hreception, Option.map_some]
    rw [hstage, endingJobs, List.cons_append, run_withCall_of hsignal (htasks _), List.nil_append,
      List.nil_append, run_withCall_of rfl (htasks _)]
    rfl

/-- What becomes of the link of a service that has gone. -/
inductive Fate (rules : RegistryRules) (actions : List Action) (entry : Entry) (link : Link)
    (r' : Registry) : Prop
  /-- The call waits while the link is launched. -/
  | waits (hstage : link.stage = .launching) (hconfirm : .confirm entry.link ∈ (run rules {} actions).jobs)
      (h : r' = (run rules {} actions).withCall ⟨[.abandon entry.key], none⟩ [])
  | kept (hopened : HasOpened rules actions entry.link)
      (hgoesOn : (run rules {} actions).GoesOn actions entry.link link)
      (h : r' = (run rules {} actions).returned)
  | abandoned {link' : Link} (hnever : ¬ HasOpened rules actions entry.link)
      (habandons : (run rules {} actions).Abandons entry.link link link')
      (h : r' = ((run rules {} actions).abandoned entry link').returned)
      (hcancels : link.stage = .pending → ∀ back, .keep entry.link ∉ (r'.run rules back).jobs →
        .negotiate entry.link (.reply .cancelled) ∉ (r'.run rules back).jobs →
        .negotiate entry.link (.reply .cancelled) ∈ jobsDone rules r' back)
  /-- The source of the link could not be made: the link is being taken out of force as it is. -/
  | withdrawn (hnever : ¬ HasOpened rules actions entry.link) (hstage : link.stage = .stopped)
      (hwithdraw : .withdraw entry.link ∈ (run rules {} actions).jobs)
      (h : r' = (run rules {} actions).returned)

/-- The call that has begun the negotiation of a link cancels it if the link has been abandoned. -/
theorem cancels_of_abandoned {r' : Registry} {link' : Link} (hr : r'.Roster) (ha : r'.Agenda)
    (h : r' = (r.abandoned entry link').returned) (hlink : r.links[entry.link]? = some link)
    (hstage : link'.stage = .stopped) (hkeep : .keep entry.link ∈ r.jobs) (back : List Action)
    (hkept : .keep entry.link ∉ (r'.run rules back).jobs)
    (hcancelled : .negotiate entry.link (.reply .cancelled) ∉ (r'.run rules back).jobs) :
    .negotiate entry.link (.reply .cancelled) ∈ jobsDone rules r' back := by
  have hlink' : r'.links[entry.link]? = some link' := h ▸ links_parted hlink link'
  have htasks : r'.tasks = r.tasks ++ [⟨[], none⟩] := h ▸ rfl
  have howed : .keep entry.link ∈ r'.jobs := mem_jobs_of_append htasks hkeep
  obtain hdone | hstill | hstill :=
    cancelled_later hr ha (dossier?_eq hlink') hstage (.inl howed) back
  · exact hdone
  · exact absurd hstill hkept
  · exact absurd hstill hcancelled

/-- **What becomes of the link of a service that has gone.** -/
theorem fate_of_removed (hfind : (run rules {} actions).find? key = some entry) :
    ∃ link, (run rules {} actions).links[entry.link]? = some link ∧
      Fate rules actions entry link ((run rules {} actions).atOnce rules (.removed key) 4) := by
  obtain ⟨hentry, rfl⟩ := find?_eq_some hfind
  obtain ⟨link, hlink, -⟩ := (roster_run rules actions).keyed entry hentry
  have hcurrent : (run rules {} actions).isCurrent entry.link = true :=
    isCurrent_iff.mpr ⟨entry, hentry, rfl⟩
  have hperform := perform_abandon rules hfind hlink
  have hopened := hasOpened_iff_reception hlink
  have hposition : (run rules {} actions).Position entry.link link := position_of_isCurrent hlink hcurrent
  refine ⟨link, hlink, ?_⟩
  have hestablishing (hlaunching : link.stage ≠ .launching) (hstopped : link.stage ≠ .stopped)
      (hest : link.isEstablishing = true) (hnever : ¬ HasOpened rules actions entry.link) :
      Fate rules actions entry link ((run rules {} actions).atOnce rules (.removed entry.key) 4) := by
    rw [if_neg hlaunching, if_pos hest] at hperform
    obtain ⟨link', habandons, h⟩ := atOnce_removed_of_abandons hposition hlink hperform hlaunching hstopped
    refine .abandoned hnever habandons h fun hstage => ?_
    cases habandons with
    | pending _ hkeep =>
      obtain ⟨hr, ha⟩ := orderly_atOnce rules actions (.removed entry.key) 4
      exact cancels_of_abandoned hr ha h hlink rfl hkeep
    | negotiating hstage' | running hstage' => cases hstage.symm.trans hstage'
  cases hposition with
  | launching hstage hconfirm =>
    rw [if_pos hstage] at hperform
    exact .waits hstage hconfirm (atOnce_removed_of_waits hperform 4)
  | pending hstage hreception | negotiating hstage hreception =>
    refine hestablishing (by simp [hstage]) (by simp [hstage]) (by simp [Link.isEstablishing, hstage]) ?_
    simp [hopened, hreception]
  | withdrawn hstage hreception hwithdraw =>
    rw [if_neg (by simp [hstage]), if_neg (by simp [Link.isEstablishing, hstage])] at hperform
    exact .withdrawn (by simp [hopened, hreception]) hstage hwithdraw (atOnce_removed_of_perform hperform)
  | @running reception hstage hreception hexited =>
    by_cases hworker : reception.worker.hasOpened = true
    · rw [if_neg (by simp [hstage]), if_neg (by simp [Link.isEstablishing, hstage, hreception, hworker])]
        at hperform
      exact .kept (hopened.mpr ⟨reception, hreception, hworker⟩)
        (goesOn_of_isCurrent hlink hcurrent hstage hreception hexited) (atOnce_removed_of_perform hperform)
    · refine hestablishing (by simp [hstage]) (by simp [hstage])
        (by simp [Link.isEstablishing, hstage, hreception, hworker]) ?_
      simp [hopened, hreception, hworker]

/-! ## The other links -/

/-- A registry has touched no link but that of a key: the other entries and links are as they were, and so
are the tasks. -/
structure SparesOthers (key : ServiceKey) (r r' : Registry) : Prop where
  kept : ∀ entry ∈ r.entries, entry.key ≠ key → entry ∈ r'.entries
  links : ∀ entry ∈ r.entries, entry.key ≠ key → r'.links[entry.link]? = r.links[entry.link]?
  old : ∀ entry ∈ r'.entries, entry ∈ r.entries
  tasks : ∃ task, r'.tasks = r.tasks ++ [task]

theorem sparesOthers_withCall (key : ServiceKey) (r : Registry) (task : Task) :
    SparesOthers key r (r.withCall task []) where
  kept _ hentry _ := hentry
  links _ _ _ := rfl
  old _ hentry := hentry
  tasks := ⟨task, rfl⟩

theorem sparesOthers_abandoned (hr : r.Roster) (hentry : entry ∈ r.entries) (link : Link) :
    SparesOthers entry.key r (r.abandoned entry link).returned where
  kept other hother hkey := List.mem_filter.mpr ⟨hother, by simpa using hkey⟩
  links other hother hkey := by
    refine List.getElem?_set_ne fun hlink => hkey ?_
    rw [hr.link_inj hother hentry hlink.symm]
  old other hother := (List.mem_filter.mp hother).1
  tasks := ⟨_, rfl⟩

/-- A service that has gone, and has no link in force, changes nothing. -/
theorem atOnce_removed_of_none (rules : RegistryRules) (hfind : r.find? key = none) :
    r.atOnce rules (.removed key) 4 = r.returned :=
  atOnce_removed_of_perform (by rw [perform, hfind])

/-- **No link of another key is touched.** -/
theorem sparesOthers_removed (rules : RegistryRules) (actions : List Action) (key : ServiceKey) :
    SparesOthers key (run rules {} actions) ((run rules {} actions).atOnce rules (.removed key) 4) := by
  cases hfind : (run rules {} actions).find? key with
  | none =>
    rw [atOnce_removed_of_none rules hfind]
    exact sparesOthers_withCall _ _ _
  | some entry =>
    obtain ⟨hentry, rfl⟩ := find?_eq_some hfind
    obtain ⟨link, -, hfate⟩ := fate_of_removed hfind
    cases hfate with
    | waits _ _ h | kept _ _ h | withdrawn _ _ _ h => exact h ▸ sparesOthers_withCall _ _ _
    | abandoned _ _ h => exact h ▸ sparesOthers_abandoned (roster_run rules actions) hentry _

/-- A registry with the latest of a service under its key. -/
def refreshed (r : Registry) (service : Service) : Registry :=
  { r with
    entries := r.entries.map fun entry =>
      if entry.key = service.key then { entry with service } else entry }

/-- **A service that is found again is only refreshed.** -/
theorem atOnce_resolved (rules : RegistryRules) {service : Service}
    (hconnected : r.isConnected service.key = true) :
    r.atOnce rules (.resolved service) 1 = (r.refreshed service).returned := by
  have hperform : r.perform rules (.refresh service) = { registry := r.refreshed service } := by
    rw [perform, if_pos hconnected]
    rfl
  rw [atOnce_eq, Call.job, run_withCall_of hperform rfl]
  rfl

/-! ## Services that go -/

/-- A registry at rest keeps the link of a service that has gone exactly if its source has opened. -/
theorem isConnected_removed_iff (hrest : (run rules {} actions).IsAtRest) :
    ((run rules {} actions).atOnce rules (.removed key) 4).isConnected key = true ↔
      ∃ entry, (run rules {} actions).find? key = some entry ∧ HasOpened rules actions entry.link := by
  have hreturned : (run rules {} actions).returned.isConnected key =
      (run rules {} actions).isConnected key := rfl
  cases hfind : (run rules {} actions).find? key with
  | none =>
    rw [atOnce_removed_of_none rules hfind, hreturned]
    simp [isConnected, hfind]
  | some entry =>
    obtain ⟨hentry, rfl⟩ := find?_eq_some hfind
    obtain ⟨link, -, hfate⟩ := fate_of_removed hfind
    cases hfate with
    | waits _ hconfirm => cases hrest.begins hconfirm
    | withdrawn _ _ hwithdraw => cases hrest.begins hwithdraw
    | kept hopened _ h =>
      rw [h, hreturned]
      simp [isConnected, hfind, hopened]
    | @abandoned link' hnever _ h =>
      have hgone : ((run rules {} actions).abandoned entry link').returned.find? entry.key = none := by
        simp [abandoned, parted, tell, returned, withCall, find?]
      rw [h]
      simp [isConnected, hgone, hnever]

/-- **A service that has gone keeps its link exactly if the source of the link has ever opened.** If it has,
nothing is changed, and the worker goes on. If it has not, the link is taken out of force and told to be
disconnected, and its negotiation is cancelled or its worker asked to stop; a link that could not get a
source is being taken out of force already. The call waits while the link is launched. The links of other
services are not touched, and a service that is found again is only refreshed. -/
theorem kept_iff_opened (rules : RegistryRules) (actions : List Action) (key : ServiceKey) :
    let r := run rules {} actions
    let r' := r.atOnce rules (.removed key) 4
    (r.find? key = none → r' = r.returned) ∧
    (∀ entry, r.find? key = some entry →
      ∃ link, r.links[entry.link]? = some link ∧ Fate rules actions entry link r') ∧
    (r.IsAtRest → (r'.isConnected key = true ↔
      ∃ entry, r.find? key = some entry ∧ HasOpened rules actions entry.link)) ∧
    SparesOthers key r r' ∧
    ∀ service, r.isConnected service.key = true →
      r.atOnce rules (.resolved service) 1 = (r.refreshed service).returned :=
  ⟨atOnce_removed_of_none rules, fun _ => fate_of_removed, isConnected_removed_iff,
    sparesOthers_removed rules actions key, fun _ => atOnce_resolved rules⟩

/-- A file is opened, lost, and cannot be opened again. -/
def wavering : List Action :=
  connection 0 ++
    [.source 0 .tick, .source 0 (.opened (.ok ())), .source 0 (.polled (.error (.lost "reset"))),
      .source 0 .tick, .source 0 .tick, .source 0 (.opened (.error (.unreachable "refused")))]

/-- A file that is to be opened again is kept, and one that has never been opened is not. -/
theorem kept_iff_opened_wavering :
    let key := (Service.manual "app").key
    ((run plainRules {} wavering).atOnce plainRules (.removed key) 4).isConnected key = true ∧
      ((run plainRules {} (connection 0)).atOnce plainRules (.removed key) 4).isConnected key = false := by
  intro key
  constructor
  · have hrest : (run plainRules {} wavering).IsAtRest := isAtRest_of_ended (by decide +kernel)
    have hopened : HasOpened plainRules wavering 0 := by
      have hworker : ((run plainRules {} wavering).worker? 0).any (·.hasOpened) = true := by decide +kernel
      exact (hasOpened_iff wavering 0).mpr (by simpa using (Option.any_eq_true _ _).mp hworker)
    obtain ⟨-, -, hkept, -⟩ := kept_iff_opened plainRules wavering key
    exact (hkept hrest).mpr ⟨⟨.manual "app", 0⟩, by decide +kernel, hopened⟩
  · have hrest : (run plainRules {} (connection 0)).IsAtRest := isAtRest_of_ended (by decide +kernel)
    obtain ⟨-, -, hkept, -⟩ := kept_iff_opened plainRules (connection 0) key
    refine Bool.eq_false_iff.mpr fun hconnected => ?_
    obtain ⟨entry, -, front, back, -, hactions, -⟩ := (hkept hrest).mp hconnected
    have hmem : Action.source entry.link (.opened (.ok ())) ∈ connection 0 := by simp [hactions]
    simp [connection] at hmem

end LogIntake.Registry
