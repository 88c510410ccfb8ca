import LogIntake.Registry.Step
import Mathlib.Algebra.Order.Group.Multiset
import Mathlib.Tactic.Abel

/-!
# What the tasks of a registry still have to do

* `Registry.jobs`: the jobs of all tasks; `Job.link?`: the link that a job is about.
* **`Registry.exists_beside`**: a task that does its next job leaves all other jobs.
* `StopsFirst`: every announcement that a link is disconnected comes after a job that stops the link.
-/

namespace LogIntake

/-! ## Jobs and their links -/

namespace RegistryEvent

/-- The link that is announced. -/
def link : RegistryEvent → Nat
  | .connected n _ | .disconnected n _ => n

/-- The service that is announced. -/
def service : RegistryEvent → Service
  | .connected _ service | .disconnected _ service => service

/-- Whether the link is announced to be disconnected. -/
def isFarewell : RegistryEvent → Bool
  | .connected _ _ => false
  | .disconnected _ _ => true

end RegistryEvent

namespace Job

/-- The link that a job is about. The other jobs concern a request, a key or all links in force. -/
def link? : Job → Option Nat
  | .negotiate n _ | .launch n | .confirm n | .keep n | .withdraw n | .halt n | .leave n | .depart n
  | .release n | .signal n | .join n => some n
  | .announce event => some event.link
  | .check _ | .enroll _ | .detach _ | .drain | .refresh _ | .abandon _ => none

/-- The event that a job announces. -/
def event? : Job → Option RegistryEvent
  | .announce event => some event
  | _ => none

/-- Whether a job announces that a link is disconnected. -/
def isFarewell (job : Job) : Bool := job.event?.any RegistryEvent.isFarewell

/-- The link that a job stops. -/
def stops? : Job → Option Nat
  | .release n | .halt n => some n
  | _ => none

end Job

namespace Registry

variable {r : Registry}

/-- The jobs of all tasks. -/
def jobs (r : Registry) : List Job := r.tasks.flatMap Task.jobs

theorem mem_jobs {number : Nat} {task : Task} (htask : r.tasks[number]? = some task) {job : Job}
    (hjob : job ∈ task.jobs) : job ∈ r.jobs :=
  List.mem_flatMap.mpr ⟨task, List.mem_of_getElem? htask, hjob⟩

/-- **A task that does its next job leaves all other jobs.** -/
theorem exists_beside {number : Nat} {task : Task} {job : Job} {rest : List Job}
    (htask : r.tasks[number]? = some task) (hjobs : task.jobs = job :: rest) {o : Outcome}
    (htasks : o.registry.tasks = r.tasks) :
    ∃ beside : Multiset Job, (r.jobs : Multiset Job) = job ::ₘ beside ∧
      ((afterJob number rest o).jobs : Multiset Job) = ↑(o.next ++ o.spawned.flatten) + beside := by
  obtain ⟨hlt, hget⟩ := List.getElem?_eq_some_iff.mp htask
  obtain ⟨front, back, hsplit, -, hset⟩ : ∃ front back,
      r.tasks = front ++ r.tasks[number] :: back ∧ front.length = number ∧
        r.tasks.set number ⟨o.next ++ rest, o.failure⟩ = front ++ ⟨o.next ++ rest, o.failure⟩ :: back :=
    List.exists_of_set hlt
  rw [hget] at hsplit
  refine ⟨↑(front.flatMap Task.jobs ++ rest ++ back.flatMap Task.jobs), ?_, ?_⟩
  · rw [jobs, hsplit, Multiset.cons_coe, Multiset.coe_eq_coe, List.flatMap_append, List.flatMap_cons,
      hjobs, List.cons_append, List.append_assoc]
    exact List.perm_middle
  · have hspawned : (o.spawned.map (⟨·, none⟩)).flatMap Task.jobs = o.spawned.flatten := by
      rw [List.flatMap_map]
      exact List.flatMap_id
    rw [jobs, afterJob, htasks, hset]
    simp only [List.flatMap_append, List.flatMap_cons, hspawned, ← Multiset.coe_add]
    abel

/-- The tasks after a job are the old ones, the one that did the job and those that were spawned. -/
theorem mem_tasks_afterJob {number : Nat} {rest : List Job} {o : Outcome} {task : Task}
    (h : task ∈ (afterJob number rest o).tasks) :
    task ∈ o.registry.tasks ∨ task.jobs = o.next ++ rest ∨ task.jobs ∈ o.spawned := by
  rw [afterJob, List.mem_append, List.mem_map] at h
  obtain hold | ⟨jobs, hspawned, rfl⟩ := h
  · obtain hold | rfl := List.mem_or_eq_of_mem_set hold
    · exact .inl hold
    · exact .inr (.inl rfl)
  · exact .inr (.inr hspawned)

end Registry

/-! ## Announcements -/

/-- Every announcement that a link is disconnected comes after a job that stops the link, unless the
link has been stopped before. -/
def StopsFirst (stopped : Nat → Prop) : List Job → Prop
  | [] => True
  | job :: rest =>
    (∀ event, job.event? = some event → event.isFarewell → stopped event.link) ∧
      StopsFirst (fun n => job.stops? = some n ∨ stopped n) rest

namespace StopsFirst

variable {stopped stopped' : Nat → Prop} {job : Job} {front back jobs : List Job}

theorem mono (h : ∀ n, stopped n → stopped' n) (hjobs : StopsFirst stopped jobs) :
    StopsFirst stopped' jobs := by
  induction jobs generalizing stopped stopped' with
  | nil => trivial
  | cons job jobs ih =>
    exact ⟨fun event hevent hfarewell => h _ (hjobs.1 event hevent hfarewell),
      ih (fun n => Or.imp_right (h n)) hjobs.2⟩

theorem append_iff : StopsFirst stopped (front ++ back) ↔
    StopsFirst stopped front ∧
      StopsFirst (fun n => (∃ job ∈ front, job.stops? = some n) ∨ stopped n) back := by
  induction front generalizing stopped with
  | nil => simp [StopsFirst]
  | cons job front ih =>
    simp only [List.cons_append, StopsFirst, ih, and_assoc, List.exists_mem_cons_iff, or_assoc,
      or_left_comm]

/-- Jobs that keep to the rule by themselves can come one after the other. -/
theorem append (hfront : StopsFirst stopped front) (hback : StopsFirst stopped back) :
    StopsFirst stopped (front ++ back) :=
  append_iff.mpr ⟨hfront, hback.mono fun _ => .inr⟩

/-- Jobs that announce only what has been stopped before. -/
theorem of_forall (h : ∀ job ∈ jobs, ∀ event, job.event? = some event → event.isFarewell →
    stopped event.link) : StopsFirst stopped jobs := by
  induction jobs generalizing stopped with
  | nil => trivial
  | cons job jobs ih =>
    rw [List.forall_mem_cons] at h
    exact ⟨h.1, ih fun job hjob event hevent hfarewell => .inr (h.2 job hjob event hevent hfarewell)⟩

end StopsFirst

end LogIntake
