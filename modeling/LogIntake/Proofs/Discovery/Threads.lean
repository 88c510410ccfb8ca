import LogIntake.Proofs.Discovery.Services

/-!
# What the threads of a search do

* `Discovery.Moves`: all that an action can do; **`moves_step`**.
* `Discovery.changeBy`: what a chore changes in the services known, so that listeners are to be told.
* `Discovery.changes`: what a run changes, in the order in which it is recorded.
* **`services_run`**: the services known are what the changes leave.
* **`removalsOf_run`**: every removal is counted.
* `Resolver.Course`: the ways in which a thread that resolves a name can stand.
-/

namespace LogIntake

/-- What a chore tells. -/
def Chore.notification? : Chore → Option Notification
  | .tell notification => some notification
  | .check _ _ | .record _ _ | .forget _ => none

namespace Discovery

variable {d d' : Discovery} {chore : Chore} {done : Option Chore} {action : Action}
  {service : Service} {seen : Option Nat}

/-! ## Chores -/

/-- A service has been removed since its answer was asked for. -/
def IsOvertaken (d : Discovery) (service : Service) (seen : Option Nat) : Prop :=
  seen.any (· ≠ d.removalsOf service.key) = true

instance (d : Discovery) (service : Service) (seen : Option Nat) :
    Decidable (d.IsOvertaken service seen) :=
  inferInstanceAs (Decidable (_ = true))

/-- What a chore changes. An answer that a removal has overtaken changes nothing, and neither does one
that is known already. -/
def changeBy (d : Discovery) : Chore → Option Notification
  | .record service seen =>
    if d.IsOvertaken service seen ∨ d.get? service.key = some service then none
    else some (.resolved service)
  | .forget key => some (.removed key)
  | .check _ _ | .tell _ => none

theorem perform_overtaken (h : d.IsOvertaken service seen) :
    d.perform (.record service seen) = (d, []) :=
  if_pos h

theorem perform_record (h : ¬ d.IsOvertaken service seen) :
    d.perform (.record service seen) =
      ({ d with services := insert service d.services },
        if d.get? service.key = some service then [] else [.tell (.resolved service)]) :=
  if_neg h

/-- **An answer is dropped, known already, or new.** -/
theorem record_cases (d : Discovery) (service : Service) (seen : Option Nat) :
    (d.perform (.record service seen) = (d, []) ∧ d.changeBy (.record service seen) = none) ∨
    (d.perform (.record service seen) = ({ d with services := insert service d.services }, []) ∧
      d.get? service.key = some service ∧ d.changeBy (.record service seen) = none) ∨
    (d.perform (.record service seen) =
        ({ d with services := insert service d.services }, [.tell (.resolved service)]) ∧
      d.changeBy (.record service seen) = some (.resolved service)) := by
  by_cases hseen : d.IsOvertaken service seen
  · exact .inl ⟨perform_overtaken hseen, by simp [changeBy, hseen]⟩
  · right
    by_cases hknown : d.get? service.key = some service
    · exact .inl ⟨by rw [perform_record hseen, if_pos hknown], hknown, by simp [changeBy, hknown]⟩
    · exact .inr ⟨by rw [perform_record hseen, if_neg hknown], by simp [changeBy, hseen, hknown]⟩

theorem perform_dispatcher (d : Discovery) (chore : Chore) :
    (d.perform chore).1.dispatcher = d.dispatcher := by
  cases chore with
  | record service seen => obtain ⟨h, -⟩ | ⟨h, -⟩ | ⟨h, -⟩ := d.record_cases service seen <;> rw [h]
  | check | forget | tell => rfl

theorem perform_resolvers (d : Discovery) (chore : Chore) :
    (d.perform chore).1.resolvers = d.resolvers := by
  cases chore with
  | record service seen => obtain ⟨h, -⟩ | ⟨h, -⟩ | ⟨h, -⟩ := d.record_cases service seen <;> rw [h]
  | check | forget | tell => rfl

theorem told_perform (d : Discovery) (chore : Chore) :
    (d.perform chore).1.told = d.told ++ chore.notification?.toList := by
  have hnil : d.told = d.told ++ [] := (List.append_nil _).symm
  cases chore with
  | record service seen =>
    obtain ⟨h, -⟩ | ⟨h, -⟩ | ⟨h, -⟩ := d.record_cases service seen <;> rw [h] <;> exact hnil
  | check | forget => exact hnil
  | tell => rfl

/-- **Whatever is changed is told next**, and nothing else. -/
theorem notifications_perform (d : Discovery) (chore : Chore) :
    (d.perform chore).2.filterMap Chore.notification? = (d.changeBy chore).toList := by
  cases chore with
  | check service seen =>
    simp only [perform, changeBy]
    split <;> rfl
  | record service seen =>
    obtain ⟨h, hchange⟩ | ⟨h, -, hchange⟩ | ⟨h, hchange⟩ := d.record_cases service seen <;>
      rw [h, hchange] <;> rfl
  | forget | tell => rfl

theorem services_perform (h : Ordered d.services) (chore : Chore) :
    (d.perform chore).1.services = (d.changeBy chore).elim d.services (·.applyTo d.services) := by
  cases chore with
  | check | forget | tell => rfl
  | record service seen =>
    obtain ⟨hperform, hchange⟩ | ⟨hperform, hknown, hchange⟩ | ⟨hperform, hchange⟩ :=
      d.record_cases service seen
    · rw [hperform, hchange]
      rfl
    · -- a service that is known already takes its own place
      rw [hperform, hchange]
      refine (h.insert service).ext h fun key => ?_
      rw [known_insert]
      split
      · next hkey => exact hkey ▸ hknown.symm
      · rfl
    · rw [hperform, hchange]
      rfl

theorem lookup_filter_ne (removals : List (ServiceKey × Nat)) {gone key : ServiceKey}
    (hne : key ≠ gone) : (removals.filter (·.1 ≠ gone)).lookup key = removals.lookup key := by
  induction removals with
  | nil => rfl
  | cons entry removals ih =>
    obtain ⟨k, count⟩ := entry
    by_cases hk : k = gone
    · have hkey : (key == k) = false := by simpa [hk] using hne
      rw [List.filter_cons_of_neg (by simpa using hk), List.lookup_cons, hkey, ih]
    · rw [List.filter_cons_of_pos (by simpa using hk), List.lookup_cons, List.lookup_cons, ih]

theorem removalsOf_perform (d : Discovery) (chore : Chore) (key : ServiceKey) :
    (d.perform chore).1.removalsOf key =
      d.removalsOf key + if d.changeBy chore = some (.removed key) then 1 else 0 := by
  cases chore with
  | check | tell => rfl
  | record service seen =>
    obtain ⟨h, hchange⟩ | ⟨h, -, hchange⟩ | ⟨h, hchange⟩ := d.record_cases service seen <;>
      rw [h, hchange, if_neg (by simp)] <;> rfl
  | forget gone =>
    by_cases hkey : key = gone
    · simp [perform, changeBy, removalsOf, hkey]
    · have hbeq : (key == gone) = false := by simpa using hkey
      have hlookup : (d.removals.filter (·.1 ≠ gone)).lookup key = d.removals.lookup key :=
        lookup_filter_ne d.removals hkey
      simp only [perform, changeBy, removalsOf, List.lookup_cons, hbeq, hlookup]
      simp [Ne.symm hkey]

/-! ## Actions -/

/-- The chore that a thread does in an action. -/
def choreDone (d : Discovery) : Action → Option Chore
  | .advance => d.dispatcher.head?
  | .advanceResolver number => (d.resolvers[number]?).bind (·.chores.head?)
  | .send _ | .look | .dispatch | .resolve _ _ | .close => none

/-- All that an action can do, with the chore that is done. -/
inductive Moves (d : Discovery) : Option Chore → Discovery → Prop
  /-- Nothing is to be done that was not before. -/
  | hears {queue : List TransportEvent} {ready closed : Bool} :
      Moves d none { d with queue, ready, closed }
  /-- A thread begins to resolve a name. -/
  | begins {queue : List TransportEvent} {ready : Bool} {key : ServiceKey} :
      Moves d none
        { d with queue, ready, resolvers := d.resolvers ++ [{ key, seen := d.removalsOf key }] }
  /-- The thread that looks at events has found something to do. -/
  | takes {queue : List TransportEvent} {ready : Bool} {chore : Chore} (h : d.dispatcher = [])
      (hchore : chore.notification? = none) :
      Moves d none { d with queue, ready, dispatcher := [chore] }
  /-- A thread that resolves a name gets its answer. -/
  | answered {number : Nat} {resolver : Resolver} {answer : Option Service}
      (h : d.resolvers[number]? = some resolver) (hwaiting : resolver.waiting = true) :
      Moves d none
        { d with
          resolvers := d.resolvers.set number
            { resolver with
              waiting := false
              chores := answer.toList.map (.check · (some resolver.seen)) } }
  | dispatcherWorks {chore : Chore} {rest : List Chore} (h : d.dispatcher = chore :: rest) :
      Moves d (some chore)
        { (d.perform chore).1 with dispatcher := (d.perform chore).2 ++ rest }
  | resolverWorks {number : Nat} {resolver : Resolver} {chore : Chore} {rest : List Chore}
      (h : d.resolvers[number]? = some resolver) (hchores : resolver.chores = chore :: rest) :
      Moves d (some chore)
        { (d.perform chore).1 with
          resolvers := d.resolvers.set number
            { resolver with chores := (d.perform chore).2 ++ rest } }

theorem moves_self (d : Discovery) : Moves d none d := .hears

/-- **Whatever an action does is one of these things.** -/
theorem moves_step (d : Discovery) (action : Action) : Moves d (d.choreDone action) (d.step action) := by
  cases action with
  | send event => exact .hears
  | close => exact .hears
  | look =>
    simp only [step, choreDone]
    split
    · exact moves_self d
    · exact .hears
  | dispatch =>
    simp only [step, choreDone]
    split
    · exact moves_self d
    · next event rest _ =>
      split
      · exact moves_self d
      · next hready =>
        have hempty : d.ready = true ∧ d.dispatcher = [] := by simpa using hready
        cases event with
        | added key => exact .begins
        | resolved service => exact .takes hempty.2 rfl
        | removed key => exact .takes hempty.2 rfl
  | advance =>
    cases hchores : d.dispatcher with
    | nil =>
      simp only [step, choreDone, hchores]
      exact moves_self d
    | cons chore rest =>
      simp only [step, choreDone, hchores]
      exact .dispatcherWorks hchores
  | resolve number answer =>
    simp only [step, choreDone]
    split
    · exact moves_self d
    · next resolver hresolver =>
      split
      · exact moves_self d
      · next hwaiting =>
        have hwaiting : resolver.waiting = true := by simpa using hwaiting
        cases answer with
        | none => exact @Moves.answered d number resolver none hresolver hwaiting
        | some answer => exact @Moves.answered d number resolver (some answer) hresolver hwaiting
  | advanceResolver number =>
    cases hresolver : d.resolvers[number]? with
    | none =>
      simp only [step, choreDone, hresolver]
      exact moves_self d
    | some resolver =>
      cases hchores : resolver.chores with
      | nil =>
        simp only [step, choreDone, hresolver, Option.bind_some, hchores]
        exact moves_self d
      | cons chore rest =>
        simp only [step, choreDone, hresolver, Option.bind_some, hchores, perform_resolvers]
        exact .resolverWorks hresolver hchores

/-- What a chore that is done makes of the services, removals and what has been told. -/
theorem Moves.records (h : Moves d done d') :
    d'.services = (done.elim d fun chore => (d.perform chore).1).services ∧
      d'.removals = (done.elim d fun chore => (d.perform chore).1).removals ∧
      d'.told = (done.elim d fun chore => (d.perform chore).1).told := by
  cases h <;> exact ⟨rfl, rfl, rfl⟩

/-! ## Changes -/

/-- What an action changes. -/
def change (d : Discovery) (action : Action) : Option Notification :=
  (d.choreDone action).bind d.changeBy

/-- What a sequence of actions changes, in the order in which it is recorded. -/
def changes (d : Discovery) : List Action → List Notification
  | [] => []
  | action :: actions => (d.change action).toList ++ changes (d.step action) actions

theorem run_append (d : Discovery) (front back : List Action) :
    d.run (front ++ back) = (d.run front).run back :=
  List.foldl_append

theorem changes_append (d : Discovery) (front back : List Action) :
    changes d (front ++ back) = changes d front ++ changes (d.run front) back := by
  induction front generalizing d with
  | nil => rfl
  | cons action front ih =>
    simp only [List.cons_append, changes, ih, List.append_assoc]
    rfl

theorem changes_concat (d : Discovery) (front : List Action) (action : Action) :
    changes d (front ++ [action]) = changes d front ++ ((d.run front).change action).toList := by
  rw [changes_append]
  simp [changes]

theorem services_step (h : Ordered d.services) (action : Action) :
    (d.step action).services = (d.change action).elim d.services (·.applyTo d.services) := by
  rw [(moves_step d action).records.1, change]
  cases d.choreDone action with
  | none => rfl
  | some chore => exact services_perform h chore

/-- **The services known are what the changes leave**, in the order in which they were recorded. -/
theorem services_run (actions : List Action) :
    (run {} actions).services = replay (changes {} actions) := by
  induction actions using List.reverseRecOn with
  | nil => rfl
  | append_singleton actions action ih =>
    have hordered : Ordered (run {} actions).services := ih ▸ ordered_replay _
    rw [run_append, changes_concat]
    show ((run {} actions).step action).services = _
    rw [services_step hordered]
    cases (run {} actions).change action with
    | none => simpa using ih
    | some n =>
      rw [Option.toList_some, replay_concat, ← ih]
      rfl

theorem removalsOf_step (d : Discovery) (action : Action) (key : ServiceKey) :
    (d.step action).removalsOf key =
      d.removalsOf key + if d.change action = some (.removed key) then 1 else 0 := by
  rw [removalsOf, (moves_step d action).records.2.1, change]
  cases d.choreDone action with
  | none => rfl
  | some chore => exact removalsOf_perform d chore key

/-- **Every removal is counted.** -/
theorem removalsOf_run (d : Discovery) (actions : List Action) (key : ServiceKey) :
    (d.run actions).removalsOf key =
      d.removalsOf key + (changes d actions).count (.removed key) := by
  induction actions generalizing d with
  | nil => rfl
  | cons action actions ih =>
    have hone : (d.change action).toList.count (.removed key) =
        if d.change action = some (.removed key) then 1 else 0 := by
      cases d.change action with
      | none => rfl
      | some n => by_cases hn : n = .removed key <;> simp [hn]
    show ((d.step action).run actions).removalsOf key = _
    rw [ih, removalsOf_step, changes, List.count_append, hone, Nat.add_assoc]

end Discovery

/-! ## Threads that resolve a name -/

/-- A thread that resolves a name has at most one thing to do at a time, and remembers how often the
service had been removed when it began. -/
inductive Resolver.Course (resolver : Resolver) : Prop
  | idles (h : resolver.chores = [])
  | checks {answer : Service} (hanswered : resolver.waiting = false)
      (h : resolver.chores = [.check answer (some resolver.seen)])
  | records {answer : Service} (hanswered : resolver.waiting = false)
      (h : resolver.chores = [.record answer (some resolver.seen)])
  | tells {n : Notification} (hanswered : resolver.waiting = false) (h : resolver.chores = [.tell n])

namespace Resolver.Course

variable {resolver : Resolver}

theorem chores_of_waiting (h : resolver.Course) (hwaiting : resolver.waiting = true) :
    resolver.chores = [] := by
  cases h with
  | idles h => exact h
  | checks hanswered | records hanswered | tells hanswered => cases hwaiting.symm.trans hanswered

/-- An answer that is about to be recorded is all that the thread still has to do. -/
theorem of_mem_record (h : resolver.Course) {answer : Service} {seen : Option Nat}
    (hmem : .record answer seen ∈ resolver.chores) :
    resolver.waiting = false ∧ seen = some resolver.seen ∧
      resolver.chores = [.record answer (some resolver.seen)] := by
  cases h with
  | records hanswered h =>
    rw [h, List.mem_singleton] at hmem
    cases hmem
    exact ⟨hanswered, rfl, h⟩
  | idles h | checks _ h | tells _ h => simp [h] at hmem

/-- A thread that does what it has to do stays on its course. -/
theorem perform (h : resolver.Course) (d : Discovery) {chore : Chore} {rest : List Chore}
    (hchores : resolver.chores = chore :: rest) :
    Course { resolver with chores := (d.perform chore).2 ++ rest } := by
  cases h with
  | idles h => cases hchores.symm.trans h
  | @checks answer hanswered h =>
    cases hchores.symm.trans h
    by_cases hclosed : d.closed = true
    · exact .idles (by simp [Discovery.perform, hclosed])
    · have hrecords : (d.perform (.check answer (some resolver.seen))).2 ++ [] =
          [.record answer (some resolver.seen)] := by simp [Discovery.perform, hclosed]
      exact .records hanswered hrecords
  | @records answer hanswered h =>
    cases hchores.symm.trans h
    obtain ⟨hperform, -⟩ | ⟨hperform, -⟩ | ⟨hperform, -⟩ := d.record_cases answer (some resolver.seen)
    · exact .idles (by simp [hperform])
    · exact .idles (by simp [hperform])
    · exact .tells (n := .resolved answer) hanswered (by simp [hperform])
  | tells hanswered h =>
    cases hchores.symm.trans h
    exact .idles rfl

end Resolver.Course

namespace Discovery

variable {d d' : Discovery} {done : Option Chore}

theorem Moves.course (h : Moves d done d') (hcourse : ∀ resolver ∈ d.resolvers, resolver.Course) :
    ∀ resolver ∈ d'.resolvers, resolver.Course := by
  intro resolver hmem
  cases h with
  | hears | takes => exact hcourse resolver hmem
  | dispatcherWorks => exact hcourse resolver (perform_resolvers d _ ▸ hmem)
  | begins =>
    obtain hold | hnew := List.mem_append.mp hmem
    · exact hcourse resolver hold
    · obtain rfl := List.mem_singleton.mp hnew
      exact .idles rfl
  | @answered _ _ answer hget =>
    obtain hold | rfl := List.mem_or_eq_of_mem_set hmem
    · exact hcourse resolver hold
    · cases answer with
      | none => exact .idles rfl
      | some answer => exact .checks rfl rfl
  | resolverWorks hget hchores =>
    obtain hold | rfl := List.mem_or_eq_of_mem_set hmem
    · exact hcourse resolver hold
    · exact (hcourse _ (List.mem_of_getElem? hget)).perform d hchores

theorem course_run (actions : List Action) :
    ∀ resolver ∈ (run {} actions).resolvers, resolver.Course := by
  induction actions using List.reverseRecOn with
  | nil => exact fun _ hmem => nomatch hmem
  | append_singleton actions action ih =>
    rw [run_append]
    exact (moves_step _ action).course ih

end Discovery

end LogIntake
