import LogIntake.Proofs.Discovery.Listening

/-!
# Late answers

* `Discovery.Takes`: an event is looked at next.
* `Resolver.GoesOn`: what a thread that resolves a name keeps; **`goesOn_run`**.
* **`isOvertaken_iff`**: an answer is overtaken exactly if its service has been removed since the thread
  was started.
* **`overtaken_dropped`**: such an answer is neither recorded nor told, and every other one is.
* **`late_answer_settled`**: what an answer does that comes after newer information.
-/

namespace LogIntake

/-! ## What a thread keeps -/

/-- A thread keeps its key and its count of removals, and does nothing once it has nothing to do. -/
structure Resolver.GoesOn (before after : Resolver) : Prop where
  key : after.key = before.key
  seen : after.seen = before.seen
  rests : before.waiting = false → before.chores = [] → after = before

namespace Resolver.GoesOn

variable {a b c : Resolver}

theorem refl (a : Resolver) : a.GoesOn a := ⟨rfl, rfl, fun _ _ => rfl⟩

theorem trans (hab : a.GoesOn b) (hbc : b.GoesOn c) : a.GoesOn c := by
  refine ⟨hbc.key.trans hab.key, hbc.seen.trans hab.seen, fun hwaiting hchores => ?_⟩
  obtain rfl := hab.rests hwaiting hchores
  exact hbc.rests hwaiting hchores

end Resolver.GoesOn

namespace Discovery

variable {d d' : Discovery} {done : Option Chore} {number : Nat} {resolver : Resolver}
  {key : ServiceKey} {answer fresh : Service} {seen : Option Nat} {front mid back : List Action}

theorem goesOn_set {other : Nat} {resolver' changed : Resolver}
    (hget : d.resolvers[number]? = some resolver) (hother : d.resolvers[other]? = some resolver')
    (h : resolver'.GoesOn changed) :
    ∃ after, (d.resolvers.set other changed)[number]? = some after ∧ resolver.GoesOn after := by
  have hlt : other < d.resolvers.length := (List.getElem?_eq_some_iff.mp hother).1
  by_cases hnumber : other = number
  · subst hnumber
    obtain rfl : resolver' = resolver := Option.some_inj.mp (hother.symm.trans hget)
    exact ⟨changed, List.getElem?_set_self hlt, h⟩
  · exact ⟨resolver, by rw [List.getElem?_set_ne hnumber, hget], .refl resolver⟩

/-- **Every thread goes on**, whatever happens. -/
theorem Moves.goesOn (h : Moves d done d') (hget : d.resolvers[number]? = some resolver) :
    ∃ after, d'.resolvers[number]? = some after ∧ resolver.GoesOn after := by
  cases h with
  | hears | takes => exact ⟨resolver, hget, .refl resolver⟩
  | dispatcherWorks => exact ⟨resolver, by rw [perform_resolvers, hget], .refl resolver⟩
  | begins =>
    have hlt : number < d.resolvers.length := (List.getElem?_eq_some_iff.mp hget).1
    exact ⟨resolver, by rw [List.getElem?_append_left hlt, hget], .refl resolver⟩
  | answered hother hwaiting =>
    refine goesOn_set hget hother ⟨rfl, rfl, fun hrests => ?_⟩
    cases hwaiting.symm.trans hrests
  | resolverWorks hother hchores =>
    refine goesOn_set hget hother ⟨rfl, rfl, fun _ hrests => ?_⟩
    cases hchores.symm.trans hrests

theorem goesOn_run (hget : d.resolvers[number]? = some resolver) (actions : List Action) :
    ∃ after, (d.run actions).resolvers[number]? = some after ∧ resolver.GoesOn after := by
  induction actions generalizing d resolver with
  | nil => exact ⟨resolver, hget, .refl resolver⟩
  | cons action actions ih =>
    obtain ⟨between, hbetween, hfirst⟩ := (moves_step d action).goesOn hget
    obtain ⟨after, hafter, hrest⟩ := ih hbetween
    exact ⟨after, hafter, hfirst.trans hrest⟩

/-! ## Answers that a removal overtakes -/

/-- An event is looked at next. -/
def Takes (d : Discovery) (event : TransportEvent) : Prop :=
  d.ready = true ∧ d.dispatcher = [] ∧ d.queue.head? = some event

/-- A thread is left with some chores. -/
def assign (d : Discovery) (number : Nat) (resolver : Resolver) (chores : List Chore) : Discovery :=
  { d with resolvers := d.resolvers.set number { resolver with chores } }

theorem Takes.added (h : d.Takes (.added key)) : d.step .dispatch =
    { d with
      queue := d.queue.tail
      ready := false
      resolvers := d.resolvers ++ [{ key, seen := d.removalsOf key }] } := by
  obtain ⟨hready, hdispatcher, hhead⟩ := h
  obtain ⟨rest, hqueue⟩ := List.head?_eq_some_iff.mp hhead
  simp [step, take, removalsOf, hqueue, hready, hdispatcher]

/-- The thread that is started for a name knows how often the service had been removed by then. -/
theorem seen_of_takes (h : d.Takes (.added key))
    (hget : ((d.step .dispatch).run back).resolvers[d.resolvers.length]? = some resolver) :
    resolver.seen = d.removalsOf key := by
  have hstarted : (d.step .dispatch).resolvers[d.resolvers.length]? =
      some { key, seen := d.removalsOf key } := by simp [h.added]
  obtain ⟨after, hafter, hgoes⟩ := goesOn_run hstarted back
  obtain rfl : resolver = after := Option.some_inj.mp (hget.symm.trans hafter)
  exact hgoes.seen

/-- **An answer is overtaken exactly if its service has been removed** since the thread that asked for it
was started. -/
theorem isOvertaken_iff (h : d.Takes (.added answer.key))
    (hget : ((d.step .dispatch).run back).resolvers[d.resolvers.length]? = some resolver) :
    ((d.step .dispatch).run back).IsOvertaken answer (some resolver.seen) ↔
      .removed answer.key ∈ changes (d.step .dispatch) back := by
  have hstarted : (d.step .dispatch).removalsOf answer.key = d.removalsOf answer.key := by
    rw [h.added]
    rfl
  have hcount : ((d.step .dispatch).run back).removalsOf answer.key =
      resolver.seen + (changes (d.step .dispatch) back).count (.removed answer.key) := by
    rw [removalsOf_run, hstarted, seen_of_takes h hget]
  have hne : ((d.step .dispatch).run back).IsOvertaken answer (some resolver.seen) ↔
      resolver.seen ≠ ((d.step .dispatch).run back).removalsOf answer.key := by
    simp [IsOvertaken]
  rw [hne, hcount, ← List.count_pos_iff]
  omega

theorem run_dispatch (front back : List Action) :
    ((run {} front).step .dispatch).run back = run {} (front ++ .dispatch :: back) :=
  (run_append {} front (.dispatch :: back)).symm

/-- An answer that is about to be recorded is all that its thread still has to do. -/
theorem of_mem_chores (hget : (((run {} front).step .dispatch).run back).resolvers[number]? = some resolver)
    (hmem : .record answer seen ∈ resolver.chores) :
    resolver.waiting = false ∧ resolver.chores = [.record answer (some resolver.seen)] := by
  rw [run_dispatch] at hget
  obtain ⟨hanswered, -, hchores⟩ :=
    (course_run _ resolver (List.mem_of_getElem? hget)).of_mem_record hmem
  exact ⟨hanswered, hchores⟩

theorem step_of_record (hget : d.resolvers[number]? = some resolver)
    (hchores : resolver.chores = [.record answer seen]) :
    d.step (.advanceResolver number) =
      (d.perform (.record answer seen)).1.assign number resolver (d.perform (.record answer seen)).2 := by
  simp [step, assign, hget, hchores]

/-- What becomes of an answer whose thread was started by `front` and that is about to be recorded after
`back`. -/
theorem step_of_late (htakes : (run {} front).Takes (.added answer.key))
    (hget : (((run {} front).step .dispatch).run back).resolvers[(run {} front).resolvers.length]? =
      some resolver)
    (hmem : .record answer seen ∈ resolver.chores) :
    let started := (run {} front).step .dispatch
    let d := started.run back
    let number := (run {} front).resolvers.length
    (.removed answer.key ∈ changes started back →
      d.step (.advanceResolver number) = d.assign number resolver []) ∧
    (.removed answer.key ∉ changes started back →
      d.step (.advanceResolver number) = { d with services := insert answer d.services }.assign number
        resolver (if d.get? answer.key = some answer then [] else [.tell (.resolved answer)])) := by
  intro started d number
  have hchores := (of_mem_chores hget hmem).2
  have hovertaken := isOvertaken_iff htakes hget
  refine ⟨fun hremoved => ?_, fun hkept => ?_⟩
  · rw [step_of_record hget hchores, perform_overtaken (hovertaken.mpr hremoved)]
  · rw [step_of_record hget hchores, perform_record (mt hovertaken.mp hkept)]

/-- **An answer is neither recorded nor told if its service has been removed** since the thread that asked
for it was started, and this thread does nothing more. Every other answer is recorded, and is told if it
is news. -/
theorem overtaken_dropped (htakes : (run {} front).Takes (.added key))
    (hget : (((run {} front).step .dispatch).run back).resolvers[(run {} front).resolvers.length]? =
      some resolver)
    (hmem : .record answer seen ∈ resolver.chores) (hkey : answer.key = key) :
    let started := (run {} front).step .dispatch
    let d := started.run back
    let number := (run {} front).resolvers.length
    (.removed key ∈ changes started back →
      d.step (.advanceResolver number) = d.assign number resolver [] ∧
      ∀ later, ((d.assign number resolver []).run later).resolvers[number]? =
        some { resolver with chores := [] }) ∧
    (.removed key ∉ changes started back →
      d.step (.advanceResolver number) = { d with services := insert answer d.services }.assign number
        resolver (if d.get? key = some answer then [] else [.tell (.resolved answer)])) := by
  intro started d number
  subst hkey
  obtain ⟨hdropped, hrecorded⟩ := step_of_late htakes hget hmem
  refine ⟨fun hremoved => ⟨hdropped hremoved, fun later => ?_⟩, hrecorded⟩
  have hlt : number < d.resolvers.length := (List.getElem?_eq_some_iff.mp hget).1
  have hleft : (d.assign number resolver []).resolvers[number]? = some { resolver with chores := [] } :=
    List.getElem?_set_self hlt
  obtain ⟨after, hafter, hgoes⟩ := goesOn_run hleft later
  rw [hafter, hgoes.rests (of_mem_chores hget hmem).1 rfl]

/-- A name has appeared and is looked at next. -/
def appearing : List Action := [.send (.added (billing "a").key), .look]

/-- It goes and appears again, and both answers arrive. -/
def goingMeanwhile : List Action :=
  [.send (.removed (billing "a").key), .send (.added (billing "a").key), .resolve 0 (some (billing "a")),
    .advanceResolver 0, .look, .dispatch, .advance, .advance, .look, .dispatch,
    .resolve 1 (some (billing "b")), .advanceResolver 1, .advanceResolver 1]

/-- The first thread has nothing more to do. -/
theorem overtaken_dropped_goingMeanwhile :
    (run {} appearing).Takes (.added (billing "a").key) ∧
      .removed (billing "a").key ∈ changes ((run {} appearing).step .dispatch) goingMeanwhile ∧
      ∀ later, (((((run {} appearing).step .dispatch).run goingMeanwhile).step
        (.advanceResolver 0)).run later).resolvers[0]? =
          some ⟨(billing "a").key, 0, false, []⟩ := by
  have htakes : (run {} appearing).Takes (.added (billing "a").key) := by
    refine ⟨?_, ?_, ?_⟩ <;> decide +kernel
  have hget : (((run {} appearing).step .dispatch).run goingMeanwhile).resolvers[
      (run {} appearing).resolvers.length]? =
        some ⟨(billing "a").key, 0, false, [.record (billing "a") (some 0)]⟩ := by decide +kernel
  have hremoved : .removed (billing "a").key ∈
      changes ((run {} appearing).step .dispatch) goingMeanwhile := by decide +kernel
  obtain ⟨hstep, hrests⟩ :=
    (overtaken_dropped htakes hget (List.mem_singleton_self _) rfl).1 hremoved
  refine ⟨htakes, hremoved, fun later => ?_⟩
  have hnumber : (run {} appearing).resolvers.length = 0 := by decide +kernel
  rw [hnumber] at hstep hrests
  rw [hstep]
  exact hrests later

/-! ## Answers that come after newer information -/

/-- What is known of a service stays as long as no change of it is recorded. -/
theorem get?_run (actions : List Action) (h : ∀ n ∈ changes (run {} actions) back, n.key ≠ key) :
    ((run {} actions).run back).get? key = (run {} actions).get? key := by
  have hnone : (changes (run {} actions) back).filter (·.key = key) = [] :=
    List.filter_eq_nil_iff.mpr fun n hn => by simpa using h n hn
  show known ((run {} actions).run back).services key = known (run {} actions).services key
  rw [← run_append, services_run, services_run, changes_append, known_replay, known_replay, lastOn, lastOn,
    List.filter_append, hnone, List.append_nil]

theorem get?_of_record (h : d.dispatcher = [.record fresh none]) :
    (d.step .advance).get? fresh.key = some fresh := by
  have hnever : ¬ d.IsOvertaken fresh none := by simp [IsOvertaken]
  have hservices : (d.step .advance).services = insert fresh d.services := by
    simp [step, h, perform_record hnever]
  show known (d.step .advance).services fresh.key = some fresh
  rw [hservices, known_insert, if_pos rfl]

/-- **What an answer does that comes after newer information.** The thread that asked for it was started
by `front`, and the newer information was recorded after `mid`. It is known from then on until something
else about the service is recorded. An answer that a removal has overtaken changes nothing; any other
one takes its place, and is told unless it is the same. -/
theorem late_answer_settled (htakes : (run {} front).Takes (.added key))
    (hrecords : (((run {} front).step .dispatch).run mid).dispatcher = [.record fresh none])
    (hfresh : fresh.key = key) :
    let started := (run {} front).step .dispatch
    let d := (started.run mid).step .advance
    let number := (run {} front).resolvers.length
    d.get? key = some fresh ∧
    ∀ back, ((∀ n ∈ changes d back, n.key ≠ key) → (d.run back).get? key = some fresh) ∧
      ∀ resolver answer seen, (d.run back).resolvers[number]? = some resolver →
        .record answer seen ∈ resolver.chores → answer.key = key →
        let after := (d.run back).step (.advanceResolver number)
        (.removed key ∈ changes started (mid ++ .advance :: back) →
          after = (d.run back).assign number resolver []) ∧
        (.removed key ∉ changes started (mid ++ .advance :: back) →
          after.get? key = some answer ∧
          after.resolvers[number]? = some { resolver with
            chores := if (d.run back).get? key = some answer then [] else [.tell (.resolved answer)] }) := by
  intro started d number
  have hknown : d.get? key = some fresh := hfresh ▸ get?_of_record hrecords
  refine ⟨hknown, fun back => ⟨fun huntouched => ?_, ?_⟩⟩
  · have hrun : d = run {} (front ++ .dispatch :: (mid ++ [.advance])) :=
      (run_concat started mid .advance).symm.trans (run_dispatch front _)
    rw [hrun] at huntouched hknown ⊢
    rw [get?_run _ huntouched, hknown]
  · have hback : d.run back = started.run (mid ++ .advance :: back) :=
      (run_append started mid (.advance :: back)).symm
    rw [hback]
    intro resolver answer seen hget hmem hkey after
    subst hkey
    obtain ⟨hdropped, hrecorded⟩ := step_of_late htakes hget hmem
    refine ⟨hdropped, fun hkept => ?_⟩
    have hafter : after = _ := hrecorded hkept
    have hlt := (List.getElem?_eq_some_iff.mp hget).1
    rw [hafter]
    exact ⟨(known_insert _ _ _).trans (if_pos rfl), List.getElem?_set_self hlt⟩

/-- The transport tells of the service before it has answered. -/
def toldMeanwhile : List Action := [.send (.resolved (billing "b")), .look, .dispatch, .advance]

/-- The answer, which is older, is about to be recorded. -/
def olderAnswer : List Action := [.advance, .resolve 0 (some (billing "a")), .advanceResolver 0]

/-- The older answer takes the place of the newer information, and is told. -/
theorem late_answer_settled_olderAnswer :
    let d := (((run {} appearing).step .dispatch).run toldMeanwhile).step .advance
    let after := (d.run olderAnswer).step (.advanceResolver 0)
    (run {} appearing).Takes (.added (billing "b").key) ∧
      (((run {} appearing).step .dispatch).run toldMeanwhile).dispatcher =
        [.record (billing "b") none] ∧
      (d.run olderAnswer).get? (billing "b").key = some (billing "b") ∧
      after.get? (billing "b").key = some (billing "a") ∧
      after.resolvers[0]? = some ⟨(billing "b").key, 0, false, [.tell (.resolved (billing "a"))]⟩ := by
  intro d after
  have htakes : (run {} appearing).Takes (.added (billing "b").key) := by
    refine ⟨?_, ?_, ?_⟩ <;> decide +kernel
  have hrecords : (((run {} appearing).step .dispatch).run toldMeanwhile).dispatcher =
      [.record (billing "b") none] := by decide +kernel
  have hnumber : (run {} appearing).resolvers.length = 0 := by decide +kernel
  have hall := (late_answer_settled htakes hrecords rfl).2 olderAnswer
  rw [hnumber] at hall
  have huntouched : ∀ n ∈ changes d olderAnswer, n.key ≠ (billing "b").key := by decide +kernel
  have hget : (d.run olderAnswer).resolvers[0]? =
      some ⟨(billing "b").key, 0, false, [.record (billing "a") (some 0)]⟩ := by decide +kernel
  have hkept : .removed (billing "b").key ∉
      changes ((run {} appearing).step .dispatch) (toldMeanwhile ++ .advance :: olderAnswer) := by
    decide +kernel
  have hknown := hall.1 huntouched
  obtain ⟨hafter, hresolver⟩ := (hall.2 _ _ _ hget (List.mem_singleton_self _) rfl).2 hkept
  rw [if_neg (by rw [hknown]; decide +kernel)] at hresolver
  exact ⟨htakes, hrecords, hknown, hafter, hresolver⟩

/-- **Newer information does not last**: what the transport has told is known, and then an older answer
is, which listeners are told of too. -/
theorem older_replaces_newer :
    let d := (((run {} appearing).step .dispatch).run toldMeanwhile).step .advance
    let after := ((d.run olderAnswer).step (.advanceResolver 0)).step (.advanceResolver 0)
    d.services = [billing "b"] ∧ after.services = [billing "a"] ∧
      after.told = [.resolved (billing "b"), .resolved (billing "a")] := by
  decide +kernel

end Discovery

end LogIntake
