import LogIntake.Proofs.Discovery.Threads
import Mathlib.Algebra.Order.Group.Multiset
import Mathlib.Data.List.Infix
import Mathlib.Tactic.Abel

/-!
# What a listener of a search believes

* `Discovery.inFlight`: the changes that have been recorded and not yet told.
* **`told_add_inFlight`**: every change is told once, or is still in flight.
* `Discovery.IsInTurn`: there is never more than one notification about a service in flight.
* **`told_in_turn`**: then the changes of each service are told in the order in which they were recorded.
* **`listener_agrees_iff`**: a listener knows the services that the search knows exactly if it has been
  told last of each service what has been recorded last.
* `lateNews`: a run whose listener believes in a service that has gone.
-/

namespace LogIntake

namespace Discovery

variable {d d' : Discovery} {done : Option Chore} {chore : Chore} {actions : List Action}
  {key : ServiceKey}

/-- All that the threads have to do. -/
def chores (d : Discovery) : List Chore := d.dispatcher ++ d.resolvers.flatMap Resolver.chores

/-- The changes that have been recorded and not yet told. -/
def inFlight (d : Discovery) : List Notification := d.chores.filterMap Chore.notification?

/-! ## Every change is told once -/

/-- What is to be told by chores, in whatever order the threads do them. -/
def toTell (chores : List Chore) : Multiset Notification := ↑(chores.filterMap Chore.notification?)

theorem toTell_append (front back : List Chore) :
    toTell (front ++ back) = toTell front + toTell back := by
  rw [toTell, List.filterMap_append, ← Multiset.coe_add]
  rfl

theorem toTell_cons (chore : Chore) (chores : List Chore) :
    toTell (chore :: chores) = ↑chore.notification?.toList + toTell chores := by
  rw [← List.singleton_append, toTell_append]
  cases chore <;> rfl

theorem toTell_perform (d : Discovery) (chore : Chore) :
    toTell (d.perform chore).2 = ↑(d.changeBy chore).toList :=
  congrArg _ (notifications_perform d chore)

theorem coe_inFlight (d : Discovery) :
    (d.inFlight : Multiset Notification) =
      toTell d.dispatcher + toTell (d.resolvers.flatMap Resolver.chores) :=
  toTell_append _ _

/-- A thread that gets other chores leaves those of the others. -/
theorem exists_toTell_beside {resolvers : List Resolver} {number : Nat} {resolver : Resolver}
    (h : resolvers[number]? = some resolver) : ∃ beside : Multiset Notification,
      toTell (resolvers.flatMap Resolver.chores) = toTell resolver.chores + beside ∧
      ∀ changed : Resolver, toTell ((resolvers.set number changed).flatMap Resolver.chores) =
        toTell changed.chores + beside := by
  obtain ⟨hlt, hget⟩ := List.getElem?_eq_some_iff.mp h
  have hsplit (changed : Resolver) : resolvers.set number changed =
      resolvers.take number ++ changed :: resolvers.drop (number + 1) := by
    rw [List.set_eq_take_append_cons_drop, if_pos hlt]
  have hbeside (changed : Resolver) :
      toTell ((resolvers.set number changed).flatMap Resolver.chores) = toTell changed.chores +
        (toTell ((resolvers.take number).flatMap Resolver.chores) +
          toTell ((resolvers.drop (number + 1)).flatMap Resolver.chores)) := by
    rw [hsplit, List.flatMap_append, List.flatMap_cons, toTell_append, toTell_append]
    abel
  refine ⟨_, ?_, hbeside⟩
  have hself : resolvers.set number resolver = resolvers := by rw [← hget, List.set_getElem_self]
  rw [← hbeside resolver, hself]

/-- **A thread tells what is in flight and adds what it changes.** -/
theorem Moves.inFlight (h : Moves d done d') (hcourse : ∀ resolver ∈ d.resolvers, resolver.Course) :
    (d'.inFlight : Multiset Notification) + ↑(done.bind Chore.notification?).toList =
      ↑d.inFlight + ↑(done.bind d.changeBy).toList := by
  rw [coe_inFlight, coe_inFlight]
  cases h with
  | hears => rfl
  | begins => simp
  | takes hempty hchore =>
    rw [hempty, toTell_cons, hchore]
    rfl
  | @answered number resolver answer hget hwaiting =>
    obtain ⟨beside, hbefore, hafter⟩ := exists_toTell_beside hget
    have hidle : resolver.chores = [] :=
      (hcourse resolver (List.mem_of_getElem? hget)).chores_of_waiting hwaiting
    rw [hbefore, hafter, hidle]
    cases answer <;> rfl
  | dispatcherWorks hchores =>
    rw [perform_resolvers, hchores, toTell_append, toTell_cons, toTell_perform, Option.bind_some,
      Option.bind_some]
    abel
  | resolverWorks hget hchores =>
    obtain ⟨beside, hbefore, hafter⟩ := exists_toTell_beside hget
    rw [perform_dispatcher, hbefore, hafter, hchores, toTell_append, toTell_cons, toTell_perform,
      Option.bind_some, Option.bind_some]
    abel

/-- The notification that is told by an action. -/
def delivery (d : Discovery) (action : Action) : Option Notification :=
  (d.choreDone action).bind Chore.notification?

theorem told_step (d : Discovery) (action : Action) :
    (d.step action).told = d.told ++ (d.delivery action).toList := by
  rw [(moves_step d action).records.2.2, delivery]
  cases d.choreDone action with
  | none => exact (List.append_nil _).symm
  | some chore => exact told_perform d chore

/-- Nothing is changed while something is told. -/
theorem change_of_delivery {n : Notification} {action : Action} (h : d.delivery action = some n) :
    d.change action = none := by
  obtain ⟨chore, hdone, hchore⟩ := Option.bind_eq_some_iff.mp h
  rw [change, hdone]
  cases chore with
  | tell => rfl
  | check | record | forget => cases hchore

theorem inFlight_step (actions : List Action) (action : Action) :
    (((run {} actions).step action).inFlight : Multiset Notification) +
        ↑((run {} actions).delivery action).toList =
      ↑(run {} actions).inFlight + ↑((run {} actions).change action).toList :=
  (moves_step _ action).inFlight (course_run actions)

theorem run_concat (d : Discovery) (actions : List Action) (action : Action) :
    d.run (actions ++ [action]) = (d.run actions).step action :=
  run_append d actions [action]

/-- **Every change is told once**, or is still in flight. -/
theorem told_add_inFlight (actions : List Action) :
    ((run {} actions).told : Multiset Notification) + ↑(run {} actions).inFlight =
      ↑(changes {} actions) := by
  induction actions using List.reverseRecOn with
  | nil => rfl
  | append_singleton actions action ih =>
    rw [run_concat, told_step, changes_concat, ← Multiset.coe_add, ← Multiset.coe_add, ← ih, add_assoc,
      add_assoc, ← inFlight_step, add_comm (Multiset.ofList (Option.toList _))]

/-! ## In turn -/

/-- There is never more than one notification about a service in flight. -/
def IsInTurn (actions : List Action) : Prop :=
  ∀ front, front <+: actions → (run {} front).inFlight.Pairwise (·.key ≠ ·.key)

theorem IsInTurn.of_append {back : List Action} (h : IsInTurn (actions ++ back)) : IsInTurn actions :=
  fun front hfront => h front (hfront.trans (List.prefix_append _ _))

theorem IsInTurn.length_le_one (h : IsInTurn actions) (key : ServiceKey) :
    ((run {} actions).inFlight.filter (·.key = key)).length ≤ 1 := by
  have hpairwise := (h actions (List.prefix_refl _)).filter (·.key = key)
  have hkey : ∀ n ∈ (run {} actions).inFlight.filter (·.key = key), n.key = key := fun _ hn => by
    simpa using (List.mem_filter.mp hn).2
  generalize (run {} actions).inFlight.filter (·.key = key) = late at hpairwise hkey ⊢
  match late with
  | [] => exact Nat.zero_le 1
  | [_] => exact le_rfl
  | n :: m :: _ =>
    have hne := (List.pairwise_cons.mp hpairwise).1 m List.mem_cons_self
    exact absurd ((hkey n (by simp)).trans (hkey m (by simp)).symm) hne

theorem eq_of_perm {told late : List Notification} (h : told.Perm late) (hlate : late.length ≤ 1) :
    told = late := by
  match late with
  | [] => exact h.eq_nil
  | [_] => exact h.eq_singleton

/-- **The changes of each service are told in the order in which they were recorded**, if there is never
more than one of them in flight. -/
theorem told_in_turn (h : IsInTurn actions) (key : ServiceKey) :
    (changes {} actions).filter (·.key = key) =
      (run {} actions).told.filter (·.key = key) ++ (run {} actions).inFlight.filter (·.key = key) := by
  induction actions using List.reverseRecOn with
  | nil => rfl
  | append_singleton actions action ih =>
    have hbefore := h.of_append.length_le_one key
    have hafter := h.length_le_one key
    have hsum := congrArg (Multiset.filter (·.key = key)) (inFlight_step actions action)
    rw [run_concat] at hafter ⊢
    rw [changes_concat, told_step, List.filter_append, List.filter_append, ih h.of_append]
    have hperm : ((run {} actions).inFlight.filter (·.key = key) ++
          ((run {} actions).change action).toList.filter (·.key = key)).Perm
        (((run {} actions).delivery action).toList.filter (·.key = key) ++
          ((run {} actions).step action).inFlight.filter (·.key = key)) := by
      simp only [Multiset.coe_add, Multiset.filter_coe, List.filter_append] at hsum
      exact (Multiset.coe_eq_coe.mp hsum).symm.trans List.perm_append_comm
    rw [List.append_assoc, List.append_assoc]
    congr 1
    -- one of the lists has at most one element on each side, so that its order is no matter
    cases hdelivery : (run {} actions).delivery action with
    | none =>
      rw [hdelivery] at hperm
      exact eq_of_perm hperm hafter
    | some n =>
      rw [hdelivery, change_of_delivery hdelivery] at hperm
      rw [change_of_delivery hdelivery]
      simp only [Option.toList_none, List.filter_nil, List.append_nil] at hperm ⊢
      exact (eq_of_perm hperm.symm hbefore).symm

/-! ## What a listener believes in the end -/

/-- If as much has been told as was changed, what is believed of a service shows what was told last. -/
theorem lastOn_eq_iff {told changed : List Notification} (hperm : told.Perm changed) :
    lastOn key told = lastOn key changed ↔ known (replay told) key = known (replay changed) key := by
  rw [known_replay, known_replay]
  refine ⟨fun h => by rw [h], fun h => ?_⟩
  have hempty : lastOn key told = none ↔ lastOn key changed = none := by
    have hkey := hperm.filter (·.key = key)
    rw [lastOn, lastOn, List.getLast?_eq_none_iff, List.getLast?_eq_none_iff]
    exact ⟨fun hnil => (hnil ▸ hkey).nil_eq.symm, fun hnil => (hnil ▸ hkey).eq_nil⟩
  cases htold : lastOn key told with
  | none => exact (hempty.mp htold).symm
  | some n =>
    cases hchanged : lastOn key changed with
    | none => cases htold.symm.trans (hempty.mpr hchanged)
    | some m =>
      have hn : n.key = key := key_of_lastOn htold
      have hm : m.key = key := key_of_lastOn hchanged
      have hservice : n.service? = m.service? := by rwa [htold, hchanged] at h
      cases hknown : n.service? with
      | some s =>
        obtain rfl := Notification.eq_resolved hknown
        obtain rfl := Notification.eq_resolved (hservice.symm.trans hknown)
        rfl
      | none =>
        have hgone : n = .removed key := hn ▸ Notification.eq_removed hknown
        have hgone' : m = .removed key := hm ▸ Notification.eq_removed (hservice.symm.trans hknown)
        rw [hgone, hgone']

/-- **When nothing is in flight, a listener has been told of every change once, and knows the services
that the search knows exactly if it has been told last of each service what was recorded last.** That is
so if the notifications about each service went out in turn. -/
theorem listener_agrees_iff (hrest : (run {} actions).inFlight = []) :
    let d := run {} actions
    d.told.Perm (changes {} actions) ∧
      (replay d.told = d.services ↔ ∀ key, lastOn key d.told = lastOn key (changes {} actions)) ∧
      (IsInTurn actions → replay d.told = d.services) := by
  intro d
  have hperm : d.told.Perm (changes {} actions) := by
    have hall := told_add_inFlight actions
    rw [hrest, Multiset.coe_nil, add_zero] at hall
    exact Multiset.coe_eq_coe.mp hall
  have hiff : replay d.told = d.services ↔
      ∀ key, lastOn key d.told = lastOn key (changes {} actions) := by
    rw [services_run]
    refine ⟨fun h key => (lastOn_eq_iff hperm).mpr (by rw [h]), fun h => ?_⟩
    exact (ordered_replay _).ext (ordered_replay _) fun key => (lastOn_eq_iff hperm).mp (h key)
  refine ⟨hperm, hiff, fun hturn => hiff.mpr fun key => ?_⟩
  have hkey := told_in_turn hturn key
  rw [hrest, List.filter_nil, List.append_nil] at hkey
  rw [lastOn, lastOn, hkey]

/-- A service of a host. -/
def billing (host : String) : Service := ⟨⟨"_log._tcp.", "billing"⟩, host, 514, []⟩

/-- Two services that are found at a time, of which one goes. -/
def foundInTurn : List Action :=
  [.send (.added (billing "a").key), .send (.resolved ⟨⟨"_log._tcp.", "audit"⟩, "b", 515, []⟩),
    .send (.removed (billing "a").key), .look, .dispatch, .look, .dispatch, .advance,
    .resolve 0 (some (billing "a")), .advanceResolver 0, .advance, .advanceResolver 0,
    .advanceResolver 0, .advance, .look, .dispatch, .advance, .advance]

/-- The listener knows the service that is left. -/
theorem listener_agrees_foundInTurn :
    (run {} foundInTurn).inFlight = [] ∧ IsInTurn foundInTurn ∧
      replay (run {} foundInTurn).told = (run {} foundInTurn).services := by
  have hrest : (run {} foundInTurn).inFlight = [] := by decide +kernel
  have hall : ∀ front ∈ foundInTurn.inits, (run {} front).inFlight.Pairwise (·.key ≠ ·.key) := by
    decide +kernel
  have hturn : IsInTurn foundInTurn := fun front hfront => hall front ((List.mem_inits _ _).mpr hfront)
  exact ⟨hrest, hturn, (listener_agrees_iff hrest).2.2 hturn⟩

/-- A service goes after its answer has been recorded and before that is told. -/
def lateNews : List Action :=
  [.send (.added (billing "a").key), .look, .dispatch, .resolve 0 (some (billing "a")),
    .advanceResolver 0, .advanceResolver 0, .send (.removed (billing "a").key), .look, .dispatch,
    .advance, .advance, .advanceResolver 0]

/-- Everything has been told, and the listener believes in a service that has gone. -/
theorem lateNews_believed :
    (run {} lateNews).inFlight = [] ∧ (run {} lateNews).services = [] ∧
      replay (run {} lateNews).told = [billing "a"] := by
  decide +kernel

end Discovery

end LogIntake
