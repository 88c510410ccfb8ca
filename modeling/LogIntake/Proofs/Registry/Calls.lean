import LogIntake.Proofs.Registry.Creation

/-!
# Calls

* `Registry.atOnce`: a call all of whose jobs are done before anything else happens.
* `Registry.withCall`: a registry with a call under way; **`Registry.advance_withCall`**: how the call goes
  on, whatever the other tasks have to do.
* `Registry.Returns`: a call returns without a failure.
* **`Registry.getElem?_tasks_step`**: a task is touched by its own jobs only.
-/

namespace LogIntake.Registry

variable {rules : RegistryRules} {r : Registry} {k : Nat} {job : Job} {jobs rest : List Job}
  {failure : Option ConnectError} {spawned : List Task} {action : Action}

/-- The task that an action lets go on. -/
def Action.task? : Action → Option Nat
  | .advance number | .failWorker number _ => some number
  | .call _ | .answer _ _ | .source _ _ => none

/-- A call, of which so many jobs are done before anything else happens. -/
def atOnce (rules : RegistryRules) (r : Registry) (call : Call) (n : Nat) : Registry :=
  r.run rules (.call call :: List.replicate n (.advance r.tasks.length))

/-- A registry that has got a task for a call, and the tasks that this has spawned. -/
def withCall (r : Registry) (task : Task) (spawned : List Task) : Registry :=
  { r with tasks := r.tasks ++ task :: spawned }

/-! ## Going on -/

/-- An outcome with other tasks. -/
def withTasks (tasks : List Task) (o : Outcome) : Outcome :=
  { o with registry := { o.registry with tasks } }

/-- What a job does has nothing to do with the tasks. -/
theorem perform_withTasks (rules : RegistryRules) (r : Registry) (tasks : List Task) (job : Job) :
    { r with tasks }.perform rules job = withTasks tasks (r.perform rules job) := by
  have hconnected : ∀ key, { r with tasks }.isConnected key = r.isConnected key := fun _ => rfl
  have hfind : ∀ key, { r with tasks }.find? key = r.find? key := fun _ => rfl
  have hcurrent : ∀ n, { r with tasks }.isCurrent n = r.isCurrent n := fun _ => rfl
  cases job <;>
    simp only [perform, whenFree, negotiateLink, launchLink, hconnected, hfind, hcurrent]
  all_goals repeat' split
  all_goals rfl

/-- The call does its next job. -/
theorem advance_withCall (hk : k = r.tasks.length) :
    (r.withCall ⟨job :: rest, failure⟩ spawned).step rules (.advance k) =
      (r.perform rules job).registry.withCall
        ⟨(r.perform rules job).next ++ rest, (r.perform rules job).failure⟩
        (spawned ++ (r.perform rules job).spawned.map (⟨·, none⟩)) := by
  subst hk
  have hget : (r.tasks ++ ⟨job :: rest, failure⟩ :: spawned)[r.tasks.length]? =
      some ⟨job :: rest, failure⟩ := by simp
  have hset : ∀ task : Task, (r.tasks ++ ⟨job :: rest, failure⟩ :: spawned).set r.tasks.length task =
      r.tasks ++ task :: spawned := fun task => by simp
  have hperform := perform_withTasks rules r (r.tasks ++ ⟨job :: rest, failure⟩ :: spawned) job
  simp only [step, advance, withCall, hget, Option.map_some, hperform, afterJob, withTasks, hset,
    perform_tasks, List.append_assoc, List.cons_append]

/-- The call does its next job, and others after it. -/
theorem run_withCall (hk : k = r.tasks.length) (n : Nat) :
    (r.withCall ⟨job :: rest, failure⟩ spawned).run rules (List.replicate (n + 1) (.advance k)) =
      ((r.perform rules job).registry.withCall
        ⟨(r.perform rules job).next ++ rest, (r.perform rules job).failure⟩
        (spawned ++ (r.perform rules job).spawned.map (⟨·, none⟩))).run rules
          (List.replicate n (.advance k)) := by
  rw [List.replicate_succ, run, List.foldl_cons, advance_withCall hk]
  rfl

/-- The call does a job that spawns no task. -/
theorem run_withCall_of {r' : Registry} {next : List Job}
    (hperform : r.perform rules job = { registry := r', next }) (hk : k = r.tasks.length) (n : Nat) :
    (r.withCall ⟨job :: rest, failure⟩ spawned).run rules (List.replicate (n + 1) (.advance k)) =
      (r'.withCall ⟨next ++ rest, none⟩ spawned).run rules (List.replicate n (.advance k)) := by
  rw [run_withCall hk, hperform, List.map_nil, List.append_nil]

/-- The call has nothing more to do. -/
theorem advance_withCall_nil (hk : k = r.tasks.length) :
    (r.withCall ⟨[], failure⟩ spawned).step rules (.advance k) = r.withCall ⟨[], failure⟩ spawned := by
  subst hk
  simp [step, advance, withCall]

/-- A call whose jobs are to be done does them one after the other. -/
theorem atOnce_eq (call : Call) (n : Nat) :
    r.atOnce rules call n =
      (r.withCall ⟨[call.job], none⟩ []).run rules (List.replicate n (.advance r.tasks.length)) := rfl

/-- The roster and the agenda of a registry are in order after a call. -/
theorem orderly_atOnce (rules : RegistryRules) (actions : List Action) (call : Call) (n : Nat) :
    ((run rules {} actions).atOnce rules call n).Roster ∧
      ((run rules {} actions).atOnce rules call n).Agenda :=
  orderly_run (roster_run rules actions) (agenda_run rules actions) _

/-! ## Returning -/

/-- A call that has some jobs to do returns without a failure after so many of them, at most. -/
inductive Returns (rules : RegistryRules) : Nat → Registry → List Job → Prop
  | done {n : Nat} {r : Registry} : Returns rules n r []
  | next {n : Nat} {r : Registry} {job : Job} {rest : List Job}
      (hfailure : (r.perform rules job).failure = none)
      (h : Returns rules n (r.perform rules job).registry ((r.perform rules job).next ++ rest)) :
      Returns rules (n + 1) r (job :: rest)

/-- Nobody minds a call that returns early. -/
theorem Returns.mono {m n : Nat} (h : Returns rules m r jobs) (hle : m ≤ n) : Returns rules n r jobs := by
  induction h generalizing n with
  | done => exact .done
  | @next m r job rest hfailure _ ih =>
    obtain ⟨n, rfl⟩ : ∃ k, n = k + 1 := ⟨n - 1, by omega⟩
    exact .next hfailure (ih (by omega))

theorem run_withCall_nil (hk : k = r.tasks.length) (n : Nat) :
    (r.withCall ⟨[], failure⟩ spawned).run rules (List.replicate n (.advance k)) =
      r.withCall ⟨[], failure⟩ spawned := by
  induction n with
  | zero => rfl
  | succ n ih =>
    rw [List.replicate_succ, run, List.foldl_cons, advance_withCall_nil hk]
    exact ih

theorem Returns.run {n : Nat} (h : Returns rules n r jobs) (hk : k = r.tasks.length)
    (spawned : List Task) : ∃ (r' : Registry) (spawned' : List Task), r'.tasks = r.tasks ∧
      (r.withCall ⟨jobs, none⟩ spawned).run rules (List.replicate n (.advance k)) =
        r'.withCall ⟨[], none⟩ spawned' := by
  induction h generalizing spawned with
  | @done n r => exact ⟨r, spawned, rfl, run_withCall_nil hk n⟩
  | @next n r job rest hfailure _ ih =>
    have htasks : (r.perform rules job).registry.tasks = r.tasks := r.perform_tasks job
    obtain ⟨r', spawned', hsame, hrun⟩ := ih (htasks ▸ hk)
      (spawned ++ (r.perform rules job).spawned.map (⟨·, none⟩))
    refine ⟨r', spawned', hsame.trans htasks, ?_⟩
    rw [run_withCall hk, hfailure]
    exact hrun

/-! ## The tasks of others -/

/-- The tasks after a job: the one that has done it, and those that it has spawned. -/
theorem getElem?_tasks_afterJob {number : Nat} (hk : k < r.tasks.length) :
    (afterJob number rest (r.perform rules job)).tasks[k]? =
      if number = k then some ⟨(r.perform rules job).next ++ rest, (r.perform rules job).failure⟩
      else r.tasks[k]? := by
  rw [afterJob, perform_tasks, List.getElem?_append_left (by simpa using hk), List.getElem?_set]
  split
  · next h => rw [if_pos (h ▸ hk)]
  · rfl

/-- **A task is touched by its own jobs only.** -/
theorem getElem?_tasks_step (hk : k < r.tasks.length) (hother : action.task? ≠ some k) :
    (r.step rules action).tasks[k]? = r.tasks[k]? := by
  cases action with
  | call call => exact List.getElem?_append_left hk
  | advance number =>
    show (r.advance rules number).tasks[k]? = r.tasks[k]?
    unfold advance
    split
    · rw [getElem?_tasks_afterJob hk, if_neg fun h => hother (congrArg some h)]
    · rfl
  | failWorker number reason =>
    show (r.failWorker rules number reason).tasks[k]? = r.tasks[k]?
    unfold failWorker
    split
    · rw [getElem?_tasks_afterJob hk, if_neg fun h => hother (congrArg some h)]
    · rfl
  | answer link answer => exact congrArg (·[k]?) (r.perform_tasks _)
  | source link input =>
    show (r.feedWorker rules link input).tasks[k]? = r.tasks[k]?
    unfold feedWorker
    split
    · rfl
    · split
      · rfl
      · exact List.getElem?_append_left hk

/-- A task at its next job. -/
theorem advance_eq (htask : r.tasks[k]? = some ⟨job :: rest, failure⟩) :
    r.step rules (.advance k) = afterJob k rest (r.perform rules job) := by
  simp only [step, advance, htask, Option.map_some]

end LogIntake.Registry
