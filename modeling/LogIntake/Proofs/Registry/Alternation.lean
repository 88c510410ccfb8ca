import LogIntake.Proofs.Registry.Creation
import LogIntake.Proofs.Registry.Farewell
import Mathlib.Data.List.Chain
import Mathlib.Data.List.Infix

/-!
# What is told under a key

* `TakeTurns`: connections and ends alternate, and a connection comes first.
* `Dossier.IsOpen`: the end of a link is still to be told; `Dossier.Step.isOpen`: no link opens again.
* `Registry.IsQuiet`: no end is about to be told under a key that is taken; `Registry.StaysQuiet`: so it
  has been in all of a run.
* **`Registry.open_unique`**: then there is one open link under the key at most.
* **`Registry.takeTurns_iff`**: then what is told under the key takes turns exactly if no end is told of
  a link that never had a worker.
-/

namespace LogIntake

/-! ## Taking turns -/

/-- Connections and ends alternate, and a connection comes first. -/
def TakeTurns : List RegistryEvent → Prop
  | [] => True
  | [event] => event.isFarewell = false
  | first :: second :: rest =>
    first.isFarewell = false ∧ second.isFarewell = true ∧ TakeTurns rest

/-- What comes after a connection is the end of the same link. -/
def Follows (before after : RegistryEvent) : Prop :=
  before.isFarewell = false → after.isFarewell = true ∧ after.link = before.link

theorem takeTurns_of_preceded {events : List RegistryEvent} (hchain : events.IsChain Follows)
    (h : ∀ front event back, events = front ++ event :: back → event.isFarewell = true →
      ∃ before, front.getLast? = some before ∧ before.isFarewell = false) : TakeTurns events := by
  induction events using TakeTurns.induct with
  | case1 => trivial
  | case2 event =>
    rw [TakeTurns, ← Bool.not_eq_true]
    intro hend
    obtain ⟨before, hlast, -⟩ := h [] event [] rfl hend
    cases hlast
  | case3 first second rest ih =>
    have hfirst : first.isFarewell = false := by
      rw [← Bool.not_eq_true]
      intro hend
      obtain ⟨before, hlast, -⟩ := h [] first (second :: rest) rfl hend
      cases hlast
    have hsecond : second.isFarewell = true := ((List.isChain_cons_cons.mp hchain).1 hfirst).1
    refine ⟨hfirst, hsecond, ih hchain.tail.tail fun front event back hrest hend => ?_⟩
    obtain ⟨before, hlast, hbefore⟩ := h (first :: second :: front) event back (by rw [hrest]; rfl) hend
    cases front with
    | nil =>
      -- an end at the head of `rest` would come after `second`, which is an end itself
      obtain rfl : second = before := Option.some_inj.mp hlast
      cases hsecond.symm.trans hbefore
    | cons _ front => exact ⟨before, hlast, hbefore⟩

/-- Among events that take turns, the link of an end has been connected. -/
theorem TakeTurns.exists_connected {events : List RegistryEvent} (h : TakeTurns events)
    (hchain : events.IsChain Follows) {event : RegistryEvent} (hmem : event ∈ events)
    (hend : event.isFarewell = true) :
    ∃ before ∈ events, before.isFarewell = false ∧ before.link = event.link := by
  induction events using TakeTurns.induct with
  | case1 => cases hmem
  | case2 only =>
    obtain rfl := List.mem_singleton.mp hmem
    cases hend.symm.trans h
  | case3 first second rest ih =>
    obtain ⟨hfirst, hsecond, hrest⟩ := h
    have hlink : second.link = first.link := ((List.isChain_cons_cons.mp hchain).1 hfirst).2
    obtain rfl | rfl | hmem : event = first ∨ event = second ∨ event ∈ rest := by simpa using hmem
    · cases hend.symm.trans hfirst
    · exact ⟨first, by simp, hfirst, hlink.symm⟩
    · obtain ⟨before, hbefore, hconnected⟩ := ih hrest hchain.tail.tail hmem
      exact ⟨before, by simp [hbefore], hconnected⟩

/-! ## Open links -/

variable {rules : RegistryRules} {n m : Nat} {job : Job} {x x' : Standing} {jobs : List Job}

/-- The end of a link is still to be told: it is in force, or somebody is about to tell its end. -/
def Dossier.IsOpen (x : Dossier) : Prop :=
  x.standing.inForce = true ∨ ∃ job ∈ x.jobs, job.isFarewell = true

/-- An end is left to be told only of a link that was in force, unless it was to be told before. -/
theorem Does.of_isFarewell (hdoes : Does rules n job x x' jobs) {j : Job} (hj : j ∈ jobs)
    (hend : j.isFarewell = true) : x.inForce = true ∨ j = job := by
  cases hdoes with
  | waits => exact .inr (List.mem_singleton.mp hj)
  | negotiates _ hjobs =>
    have hnone := (Registry.of_mem_negotiationJobs (hjobs j hj)).2.2.1
    simp [Job.isFarewell, hnone] at hend
  | left =>
    cases hforce : x.inForce with
    | true => exact .inl rfl
    | false =>
      obtain rfl | rfl : j = .halt n ∨ j = .depart n := by simpa [hforce] using hj
      · cases hend
      · cases hend
  | released =>
    cases hstage : x.link.stage <;> simp [Registry.endingJobs, hstage] at hj
    · subst hj
      cases hend
    · subst hj
      cases hend
  | refused | failed | launched | cancels =>
    obtain rfl := List.mem_singleton.mp hj
    cases hend
  | _ => cases hj

/-- **A link that is not open does not open again.** -/
theorem Dossier.Step.isOpen {x x' : Dossier} (hstep : x.Step rules n x') (h : x'.IsOpen) :
    x.IsOpen := by
  cases hstep with
  | @does job _ _ jobs beside hdoes =>
    obtain hforce | ⟨j, hj, hend⟩ := h
    · exact .inl (hdoes.inForce hforce)
    · obtain hnew | hold := Multiset.mem_add.mp hj
      · obtain hforce | rfl := hdoes.of_isFarewell (Multiset.mem_coe.mp hnew) hend
        · exact .inl hforce
        · exact .inr ⟨j, Multiset.mem_cons_self j beside, hend⟩
      · exact .inr ⟨j, Multiset.mem_cons_of_mem hold, hend⟩
  | parted joins hforce => exact .inl hforce
  | answered => exact h
  | fed =>
    refine h.imp_right fun ⟨j, hj, hend⟩ => ⟨j, (Multiset.mem_add.mp hj).resolve_left fun hnew => ?_, hend⟩
    split at hnew
    · obtain rfl := List.mem_singleton.mp (Multiset.mem_coe.mp hnew)
      cases hend
    · cases hnew

theorem Dossier.Step.service {x x' : Dossier} (hstep : x.Step rules n x') :
    x'.standing.link.service = x.standing.link.service := by
  cases hstep with
  | does hdoes => cases hdoes <;> rfl
  | parted | answered | fed => rfl

/-- A link whose end is owed and has not been told is open. -/
theorem Dossier.Courtesy.isOpen {x : Dossier} (h : x.Courtesy n) (howes : x.standing.OwesFarewell)
    (hnone : x.standing.told.countP (·.isFarewell) = 0) : x.IsOpen := by
  have hone := h.eq_one howes
  rw [farewells, hnone] at hone
  cases hforce : x.standing.inForce with
  | true => exact .inl hforce
  | false =>
    have hpos : 0 < x.jobs.countP (·.isFarewell) := by
      rw [hforce, Bool.toNat_false] at hone
      omega
    exact .inr (Multiset.countP_pos.mp hpos)

namespace Registry

variable {r : Registry} {key : ServiceKey} {actions : List Action} {action : Action}
  {event : RegistryEvent} {link : Link}

/-! ## What an action tells -/

/-- What a job tells. -/
def announcedBy (r : Registry) : Job → Option RegistryEvent
  | .confirm n =>
    ((r.links[n]?).filter (·.stage = .launching)).map fun link => .connected n link.service
  | .announce event => some event
  | _ => none

theorem events_perform (r : Registry) (job : Job) :
    (r.perform rules job).registry.events = r.events ++ (r.announcedBy job).toList := by
  cases job with
  | announce event => rfl
  | confirm n =>
    simp only [perform, announcedBy]
    cases r.links[n]? with
    | none => simp
    | some link =>
      by_cases hstage : link.stage = .launching
      · simp [hstage, tell, setStage, setLink, Option.filter]
      · simp [hstage, Option.filter]
  | _ =>
    simp only [perform, whenFree, negotiateLink, launchLink]
    repeat' split
    all_goals exact (List.append_nil _).symm

def announced (r : Registry) (action : Action) : Option RegistryEvent :=
  (r.jobDone action).bind r.announcedBy

/-- **An action tells what its job tells.** -/
theorem events_step (r : Registry) (action : Action) :
    (r.step rules action).events = r.events ++ (r.announced action).toList := by
  have hnil : r.events = r.events ++ [] := (List.append_nil _).symm
  cases action with
  | call call => exact hnil
  | advance number =>
    show (r.advance rules number).events = _
    unfold advance
    cases htask : r.tasks[number]? with
    | none => simp [announced, jobDone, htask]
    | some task =>
      cases hjobs : task.jobs with
      | nil => simp [announced, jobDone, htask, hjobs]
      | cons job rest => simpa [announced, jobDone, htask, hjobs, afterJob] using r.events_perform job
  | failWorker number reason =>
    show (r.failWorker rules number reason).events = _
    unfold failWorker
    split
    · exact r.events_perform _
    · exact hnil
  | answer k answer => exact r.events_perform _
  | source k input =>
    show (r.feedWorker rules k input).events = _
    unfold feedWorker
    repeat' split
    all_goals exact hnil

/-- **What is told is the connection of a link that is being launched, or somebody was about to tell
it.** -/
theorem of_announced (h : r.announced action = some event) :
    (∃ n link, r.links[n]? = some link ∧ link.stage = .launching ∧
      event = .connected n link.service) ∨ .announce event ∈ r.jobs := by
  obtain ⟨job, hdone, hevent⟩ := Option.bind_eq_some_iff.mp h
  have hjob : job ∈ r.jobs := by
    cases action with
    | advance number =>
      obtain ⟨task, htask, hhead⟩ := Option.bind_eq_some_iff.mp hdone
      exact mem_jobs htask (List.mem_of_mem_head? hhead)
    | _ => cases hdone
  cases job with
  | announce announced =>
    cases hevent
    exact .inr hjob
  | confirm n =>
    obtain ⟨link, hlink, rfl⟩ := Option.map_eq_some_iff.mp hevent
    obtain ⟨hlink, hstage⟩ := Option.filter_eq_some_iff.mp hlink
    exact .inl ⟨n, link, hlink, by simpa using hstage, rfl⟩
  | _ => cases hevent

/-! ## What is told under a key -/

/-- What has been told under a key. -/
def toldUnder (r : Registry) (key : ServiceKey) : List RegistryEvent :=
  r.events.filter (·.service.key = key)

/-- No end is about to be told under a key that is taken. -/
def IsQuiet (r : Registry) (key : ServiceKey) : Prop :=
  r.isConnected key = true → ∀ event, .announce event ∈ r.jobs → event.service.key ≠ key

def StaysQuiet (rules : RegistryRules) (key : ServiceKey) (actions : List Action) : Prop :=
  ∀ front, front <+: actions → (run rules {} front).IsQuiet key

theorem StaysQuiet.of_append {back : List Action} (h : StaysQuiet rules key (actions ++ back)) :
    StaysQuiet rules key actions :=
  fun front hfront => h front (hfront.trans (List.prefix_append _ _))

def IsOpenUnder (r : Registry) (key : ServiceKey) (n : Nat) : Prop :=
  ∃ x, r.dossier? n = some x ∧ x.standing.link.service.key = key ∧ x.IsOpen

theorem isOpenUnder_of_announce (hlink : (run rules {} actions).links[n]? = some link)
    {s : Service} (h : .announce (.disconnected n s) ∈ (run rules {} actions).jobs) :
    (run rules {} actions).IsOpenUnder s.key n := by
  have hx := dossier?_eq hlink
  have hjob : .announce (.disconnected n s) ∈ ((run rules {} actions).jobs.filter (·.link? = some n)) :=
    List.mem_filter.mpr ⟨h, by simp [Job.link?, RegistryEvent.link]⟩
  refine ⟨_, hx, ((courtesy_run hx).key _ (.inl (Multiset.mem_coe.mpr hjob))).symm, ?_⟩
  exact .inr ⟨_, Multiset.mem_coe.mpr hjob, rfl⟩

/-- A link that is being launched is open, and nothing has been told of it. -/
theorem isOpenUnder_of_launching (hlink : (run rules {} actions).links[n]? = some link)
    (hstage : link.stage = .launching) :
    (run rules {} actions).IsOpenUnder link.service.key n ∧ (run rules {} actions).toldOf n = [] := by
  have hx := dossier?_eq hlink
  obtain ⟨hsound, -⟩ := upkeep_of_link hlink
  obtain ⟨reception, hreception⟩ := hsound.working (.inl hstage)
  have hcourtesy := courtesy_run hx
  obtain ⟨ends, htold⟩ := hcourtesy.told
  have hnot : link.stage ≠ .stopped := by simp [hstage]
  have hnone : (run rules {} actions).toldOf n = [] := by
    refine (htold.eq_greeting hnot).trans ?_
    simp [standing, Link.greeting, hstage]
  have howes : ((run rules {} actions).standing n link).OwesFarewell :=
    .inr fun h => by cases hreception.symm.trans h
  refine ⟨⟨_, hx, rfl, hcourtesy.isOpen howes ?_⟩, hnone⟩
  show ((run rules {} actions).toldOf n).countP _ = 0
  rw [hnone, List.countP_nil]

theorem eq_of_isCurrent (hr : r.Roster) {link' : Link} (hn : r.isCurrent n = true)
    (hm : r.isCurrent m = true) (hlink : r.links[n]? = some link) (hlink' : r.links[m]? = some link')
    (hkey : link.service.key = link'.service.key) : n = m := by
  obtain ⟨entry, hentry, rfl⟩ := hr.find?_of_isCurrent hlink hn
  obtain ⟨other, hother, rfl⟩ := hr.find?_of_isCurrent hlink' hm
  rw [hkey] at hentry
  rw [Option.some_inj.mp (hentry.symm.trans hother)]

theorem isConnected_of_isCurrent (hr : r.Roster) (hn : r.isCurrent n = true)
    (hlink : r.links[n]? = some link) : r.isConnected link.service.key = true := by
  obtain ⟨entry, hentry, -⟩ := hr.find?_of_isCurrent hlink hn
  rw [isConnected, hentry]
  rfl

/-- Under a key that is taken and quiet, an open link is in force. -/
theorem IsOpenUnder.isCurrent (h : (run rules {} actions).IsOpenUnder key n)
    (hquiet : (run rules {} actions).IsQuiet key)
    (hkey : (run rules {} actions).isConnected key = true) :
    (run rules {} actions).isCurrent n = true := by
  obtain ⟨x, hx, hservice, hforce | ⟨job, hjob, hend⟩⟩ := h
  · obtain ⟨link, -, rfl⟩ := Option.map_eq_some_iff.mp hx
    exact hforce
  · have hcourtesy := courtesy_run hx
    cases job with
    | announce event =>
      have hevent : event.service.key = key := (hcourtesy.key event (.inl hjob)).trans hservice
      exact absurd hevent (hquiet hkey event (mem_of_dossier? hx hjob))
    | _ => cases hend

/-- A link that is open after an action was so before, unless it has just been registered and taken its
key. -/
theorem IsOpenUnder.before (h : (run rules {} (actions ++ [action])).IsOpenUnder key n) :
    (run rules {} actions).IsOpenUnder key n ∨
      (run rules {} (actions ++ [action])).isConnected key = true := by
  obtain ⟨x, hx, hkey, hopen⟩ := h
  have hx' := hx
  rw [run_append] at hx'
  obtain ⟨y, hy, rfl | hmoved⟩ | ⟨-, hfresh⟩ := (proceeds_run rules actions action).dossiers n x hx'
  · exact .inl ⟨_, hy, hkey, hopen⟩
  · exact .inl ⟨y, hy, hmoved.service ▸ hkey, hmoved.isOpen hopen⟩
  · obtain ⟨link, hlink, rfl⟩ := Option.map_eq_some_iff.mp hx
    exact .inr (hkey ▸ isConnected_of_isCurrent (roster_run rules _) hfresh.inForce hlink)

/-- **A key has one open link at most**, if it has always been quiet. -/
theorem open_unique (hquiet : StaysQuiet rules key actions)
    (hn : (run rules {} actions).IsOpenUnder key n) (hm : (run rules {} actions).IsOpenUnder key m) :
    n = m := by
  induction actions using List.reverseRecOn generalizing n m with
  | nil =>
    obtain ⟨x, hx, -⟩ := hn
    simp [run, dossier?] at hx
  | append_singleton actions action ih =>
    by_cases htaken : (run rules {} (actions ++ [action])).isConnected key = true
    · -- nobody is about to tell an end now, so that both links must be in force
      have hlast := hquiet _ (List.prefix_refl _)
      have hforce := hn.isCurrent hlast htaken
      have hforce' := hm.isCurrent hlast htaken
      obtain ⟨x, hx, hkey, -⟩ := hn
      obtain ⟨y, hy, hkey', -⟩ := hm
      obtain ⟨link, hlink, rfl⟩ := Option.map_eq_some_iff.mp hx
      obtain ⟨link', hlink', rfl⟩ := Option.map_eq_some_iff.mp hy
      exact eq_of_isCurrent (roster_run rules _) hforce hforce' hlink hlink' (hkey.trans hkey'.symm)
    · exact ih hquiet.of_append (hn.before.resolve_right htaken) (hm.before.resolve_right htaken)

theorem key_of_mem_toldOf (hlink : (run rules {} actions).links[n]? = some link)
    (h : event ∈ (run rules {} actions).toldOf n) : event.service.key = link.service.key :=
  (courtesy_run (dossier?_eq hlink)).key event (.inr h)

/-- What has been told of a link has been told under its key. -/
theorem toldOf_eq (hlink : (run rules {} actions).links[n]? = some link) :
    (run rules {} actions).toldOf n =
      ((run rules {} actions).toldUnder link.service.key).filter (·.link = n) := by
  rw [toldOf, toldUnder, List.filter_filter]
  refine List.filter_congr fun event hevent => ?_
  by_cases hn : event.link = n
  · have hmem : event ∈ (run rules {} actions).toldOf n := List.mem_filter.mpr ⟨hevent, by simpa using hn⟩
    simp [hn, key_of_mem_toldOf hlink hmem]
  · simp [hn]

/-- **What is told is told of an open link**, and a connection is told first. -/
theorem isOpenUnder_of_announced (h : (run rules {} actions).announced action = some event) :
    (run rules {} actions).IsOpenUnder event.service.key event.link ∧
      (event.isFarewell = false → (run rules {} actions).toldOf event.link = []) := by
  have hagenda := agenda_run rules actions
  obtain ⟨n, link, hlink, hstage, rfl⟩ | hjob := of_announced h
  · obtain ⟨hopen, hnone⟩ := isOpenUnder_of_launching hlink hstage
    exact ⟨hopen, fun _ => hnone⟩
  · have hend : event.isFarewell = true := hagenda.usual _ hjob
    have hlt : event.link < (run rules {} actions).links.length := hagenda.known _ hjob _ rfl
    refine ⟨?_, fun hconnected => by cases hend.symm.trans hconnected⟩
    cases event with
    | connected => cases hend
    | disconnected n s => exact isOpenUnder_of_announce (List.getElem?_eq_getElem hlt) hjob

/-- A link is open if its connection is the last that has been told under its key. -/
theorem isOpenUnder_of_last (h : ((run rules {} actions).toldUnder key).getLast? = some event)
    (hconnected : event.isFarewell = false) :
    (run rules {} actions).IsOpenUnder key event.link ∧
      (run rules {} actions).toldOf event.link ≠ [] := by
  cases event with
  | disconnected => cases hconnected
  | connected n s =>
    obtain ⟨hmem, hkey⟩ := List.mem_filter.mp (List.mem_of_getLast? h)
    have hkey : s.key = key := of_decide_eq_true hkey
    obtain ⟨link, ends, hlink, hreception, htold, hends, -⟩ := exists_ends hmem
    have hcourtesy := courtesy_run (dossier?_eq hlink)
    have hservice : link.service.key = key := by
      have hfirst : .connected n s ∈ (run rules {} actions).toldOf n := htold ▸ List.mem_cons_self
      exact (key_of_mem_toldOf hlink hfirst).symm.trans hkey
    obtain ⟨front, hfront⟩ := List.getLast?_eq_some_iff.mp h
    have hsplit : .connected n s :: ends = front.filter (·.link = n) ++ [.connected n s] := by
      rw [← htold, toldOf_eq hlink, hservice, hfront, List.filter_append]
      simp [RegistryEvent.link]
    have hnone : ends = [] := by
      by_contra hne
      have hlast : ends.getLast? = some (.connected n s) := by
        rw [← List.getLast?_cons_of_ne_nil hne, hsplit, List.getLast?_concat]
      obtain ⟨s', -, heq⟩ := hends _ (List.mem_of_getLast? hlast)
      cases heq
    rw [hnone] at htold
    refine ⟨⟨_, dossier?_eq hlink, hservice, hcourtesy.isOpen (.inr hreception) ?_⟩,
      fun hnil => by cases htold.symm.trans hnil⟩
    show ((run rules {} actions).toldOf n).countP _ = 0
    rw [htold]
    rfl

/-- **What comes after a connection is the end of the same link**, if the key has always been quiet. -/
theorem follows_run (hquiet : StaysQuiet rules key actions) :
    ((run rules {} actions).toldUnder key).IsChain Follows := by
  induction actions using List.reverseRecOn with
  | nil => exact .nil
  | append_singleton actions action ih =>
    have hbefore : StaysQuiet rules key actions := hquiet.of_append
    have hstep : (run rules {} (actions ++ [action])).toldUnder key =
        (run rules {} actions).toldUnder key ++
          ((run rules {} actions).announced action).toList.filter (·.service.key = key) := by
      rw [run_append, toldUnder, toldUnder, ← List.filter_append, ← events_step]
      rfl
    rw [hstep]
    cases hannounced : (run rules {} actions).announced action with
    | none => simpa using ih hbefore
    | some event =>
      by_cases hkey : event.service.key = key
      · obtain ⟨hopen, hfirst⟩ := isOpenUnder_of_announced hannounced
        have hself : (some event).toList.filter (·.service.key = key) = [event] := by simp [hkey]
        rw [hself]
        refine (ih hbefore).append (.singleton event) fun before hlast after hafter hconnected => ?_
        obtain rfl : event = after := Option.some_inj.mp hafter
        -- both the link of the last connection and that of the new event are open
        obtain ⟨hopen', htold⟩ := isOpenUnder_of_last hlast hconnected
        have hlink : event.link = before.link := open_unique hbefore (hkey ▸ hopen) hopen'
        refine ⟨?_, hlink⟩
        rw [← Bool.not_eq_false]
        exact fun hagain => htold (hlink ▸ hfirst hagain)
      · simpa [hkey] using ih hbefore

end Registry

/-- The end of a link comes right after its connection. -/
theorem preceded_of_filter {front back : List RegistryEvent} {before event : RegistryEvent}
    (hchain : (front ++ event :: back).IsChain Follows) (hconnected : before.isFarewell = false)
    (hend : event.isFarewell = true) (hlink : event.link = before.link)
    (h : (front ++ event :: back).filter (·.link = before.link) = [before, event]) :
    front.getLast? = some before := by
  have hsplit : front.filter (·.link = before.link) ++ event :: back.filter (·.link = before.link) =
      [before, event] := by
    rw [← h, List.filter_append, List.filter_cons_of_pos (by simpa using hlink)]
  have hfront : front.filter (·.link = before.link) = [before] := by
    match hmatch : front.filter (·.link = before.link) with
    | [] =>
      rw [hmatch] at hsplit
      obtain rfl : event = before := (List.cons.inj hsplit).1
      cases hend.symm.trans hconnected
    | [only] =>
      rw [hmatch] at hsplit
      rw [hmatch, (List.cons.inj hsplit).1]
    | _ :: _ :: _ =>
      rw [hmatch] at hsplit
      simp at hsplit
  obtain ⟨early, late, rfl, -, -, hlate⟩ := List.filter_eq_cons_iff.mp hfront
  cases late with
  | nil => exact List.getLast?_concat
  | cons next late =>
    rw [List.append_assoc, List.cons_append, List.cons_append, List.isChain_append_cons_cons] at hchain
    have hnext := (hchain.2.1 hconnected).2
    simp [hnext] at hlate

namespace Registry

variable {key : ServiceKey} {actions : List Action}

/-- What has been told of a link that has had a worker and has been told to be disconnected. -/
theorem toldOf_of_disconnected {link : Link} {s : Service}
    (hlink : (run rules {} actions).links[n]? = some link) (hreception : link.reception ≠ none)
    (hmem : .disconnected n s ∈ (run rules {} actions).toldOf n) :
    (run rules {} actions).toldOf n = [.connected n link.service, .disconnected n s] := by
  have hcourtesy := courtesy_run (dossier?_eq hlink)
  obtain ⟨ends, htold, hends, hstopped⟩ := hcourtesy.told
  have htold : (run rules {} actions).toldOf n = link.greeting n ++ ends := htold
  have hend : .disconnected n s ∈ ends := by
    rw [htold, List.mem_append] at hmem
    refine hmem.resolve_left fun hgreeting => ?_
    cases (of_mem_greeting (upkeep_of_link hlink).1 hgreeting).1
  have hstage : link.stage = .stopped := hstopped (List.ne_nil_of_mem hend)
  have hgreeting : link.greeting n = [.connected n link.service] := by
    simp [Link.greeting, hstage, Option.isSome_iff_ne_none, hreception]
  have hle : ends.length ≤ 1 := by
    have hall : ends.countP (·.isFarewell) = ends.length := List.countP_eq_length.mpr hends
    have hle : _ + _ + ((run rules {} actions).toldOf n).countP (·.isFarewell) ≤ 1 := hcourtesy.le_one
    rw [htold, List.countP_append, hall] at hle
    omega
  have hpos : 0 < ends.length := List.length_pos_of_mem hend
  obtain ⟨only, rfl⟩ := List.length_eq_one_iff.mp (Nat.le_antisymm hle hpos)
  rw [htold, hgreeting, List.mem_singleton.mp hend]
  rfl

/-- **What is told under a key takes turns exactly if no end is told of a link that never had a
worker**, provided that no end has ever been about to be told while the key was taken. -/
theorem takeTurns_iff (hquiet : StaysQuiet rules key actions) :
    let r := run rules {} actions
    TakeTurns (r.toldUnder key) ↔ ∀ n s, .disconnected n s ∈ r.toldUnder key →
      ∃ link, r.links[n]? = some link ∧ link.reception ≠ none := by
  intro r
  have hchain := follows_run hquiet
  refine ⟨fun hturns n s hmem => ?_, fun hworked => ?_⟩
  · obtain ⟨before, hbefore, hconnected, hlink⟩ := hturns.exists_connected hchain hmem rfl
    cases before with
    | disconnected => cases hconnected
    | connected m s' =>
      obtain rfl : m = n := hlink
      obtain ⟨link, -, hget, hreception, -⟩ := exists_ends (List.mem_of_mem_filter hbefore)
      exact ⟨link, hget, hreception⟩
  · refine takeTurns_of_preceded hchain fun front event back hsplit hend => ?_
    cases event with
    | connected => cases hend
    | disconnected n s =>
      have hmem : .disconnected n s ∈ r.toldUnder key := by simp [hsplit]
      obtain ⟨link, hlink, hreception⟩ := hworked n s hmem
      obtain ⟨hevent, hkey⟩ := List.mem_filter.mp hmem
      have htold : .disconnected n s ∈ r.toldOf n :=
        List.mem_filter.mpr ⟨hevent, by simp [RegistryEvent.link]⟩
      have hservice : link.service.key = key :=
        (key_of_mem_toldOf hlink htold).symm.trans (of_decide_eq_true hkey)
      have hboth := toldOf_of_disconnected hlink hreception htold
      rw [toldOf_eq hlink, hservice, hsplit] at hboth
      rw [hsplit] at hchain
      exact ⟨.connected n link.service, preceded_of_filter hchain rfl rfl rfl hboth, rfl⟩

/-- A file whose worker ends, and that is connected again. -/
def secondTry : List Action := earlyExit ++ connection 2

/-- The file is told to be connected, to be disconnected, and to be connected. -/
theorem takeTurns_secondTry :
    let r := run plainRules {} secondTry
    StaysQuiet plainRules (Service.manual "app").key secondTry ∧
      TakeTurns (r.toldUnder (Service.manual "app").key) ∧
      (r.toldUnder (Service.manual "app").key).map (·.isFarewell) = [false, true, false] := by
  intro r
  have hquiet : StaysQuiet plainRules (Service.manual "app").key secondTry := by
    have hall : ∀ front ∈ secondTry.inits,
        (run plainRules {} front).isConnected (Service.manual "app").key = true →
        ∀ job ∈ (run plainRules {} front).jobs, job.event?.isNone = true := by decide +kernel
    intro front hfront htaken event hjob
    have hnone := hall front ((List.mem_inits _ _).mpr hfront) htaken _ hjob
    cases hnone
  have hworked : ∀ event ∈ r.toldUnder (Service.manual "app").key,
      (r.links[event.link]?).any (·.reception.isSome) = true := by decide +kernel
  refine ⟨hquiet, (takeTurns_iff hquiet).mpr fun n s hmem => ?_, by decide +kernel⟩
  obtain ⟨link, hlink, hreception⟩ := (Option.any_eq_true _ _).mp (hworked _ hmem)
  exact ⟨link, hlink, Option.isSome_iff_ne_none.mp hreception⟩

/-- **A file that is disconnected while its credentials are asked for** has never been connected, and is
told to be disconnected. -/
theorem not_takeTurns_abandonment :
    let r := run askingRules {} (abandonment ++ aftermath)
    r.toldUnder (Service.manual "app").key = [.disconnected 0 (.manual "app")] ∧
      ¬ TakeTurns (r.toldUnder (Service.manual "app").key) := by
  intro r
  have htold : r.toldUnder (Service.manual "app").key = [.disconnected 0 (.manual "app")] := by
    decide +kernel
  rw [htold]
  exact ⟨rfl, fun h => by cases h⟩

/-- The end of a file is told after the file has been connected again. -/
theorem not_takeTurns_reconnection :
    let r := run plainRules {} reconnection
    r.toldUnder (Service.manual "app").key =
      [.connected 0 (.manual "app"), .connected 1 (.manual "app"), .disconnected 0 (.manual "app")] ∧
      ¬ TakeTurns (r.toldUnder (Service.manual "app").key) := by
  intro r
  have htold : r.toldUnder (Service.manual "app").key =
      [.connected 0 (.manual "app"), .connected 1 (.manual "app"),
        .disconnected 0 (.manual "app")] := by
    decide +kernel
  rw [htold]
  exact ⟨rfl, fun h => by cases h.2.1⟩

end Registry

end LogIntake
