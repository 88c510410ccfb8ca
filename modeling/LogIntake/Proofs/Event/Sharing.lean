import LogIntake.Event.Sharing
import Mathlib.Data.List.Induction

/-!
# What becomes of the entries that receivers push

* `SharedRing.begun`, `SharedRing.pushed`: the entries for which receivers get the lock, and those that they
  then offer to the buffer, each with the number of entries that wait at that moment.
* `SharedRing.step_held`, `SharedRing.step_dropped`: an entry that is offered waits or will be counted,
  whichever turns come in between.
* **`SharedRing.run_conserves`**: what has been popped or waits is what was pushed while there was room, in
  order, and the number of dropped entries is the number of all others.
-/

namespace LogIntake.SharedRing

variable {α β : Type} {s : SharedRing α} {push : Push α} {turn : Turn α} {turns : List (Turn α)}

/-! ## The entries of a run -/

/-- What turns are about. -/
def collect (about : SharedRing α → Turn α → Option β) : SharedRing α → List (Turn α) → List β
  | _, [] => []
  | s, turn :: turns => (about s turn).toList ++ collect about (s.step turn) turns

/-- The entry for which a receiver gets the lock. -/
def begun? (s : SharedRing α) : Turn α → Option α
  | .lock _ entry => if s.current.isNone then some entry else none
  | .advance _ | .pop => none

/-- The entry that a receiver offers to the buffer, with the number of entries that wait then. -/
def pushed? (s : SharedRing α) : Turn α → Option (α × Nat)
  | .advance receiver =>
    match s.current with
    | some push =>
      if push.receiver = receiver ∧ push.stage = .begun then
        some (push.entry, s.ring.waiting.length)
      else none
    | none => none
  | .lock _ _ | .pop => none

/-- The entries for which receivers get the lock, in that order. -/
def begun (s : SharedRing α) (turns : List (Turn α)) : List α := collect begun? s turns

/-- The entries that receivers offer to the buffer, in that order, each with the number of entries that
wait then. -/
def pushed (s : SharedRing α) (turns : List (Turn α)) : List (α × Nat) := collect pushed? s turns

/-- The entry of a push that has got the lock and not yet offered it. -/
def pending (s : SharedRing α) : Option α :=
  s.current.bind fun push => if push.stage = .begun then some push.entry else none

/-- The number of pushes that have been refused and not yet counted. -/
def uncounted (s : SharedRing α) : Nat :=
  if s.current.any (·.stage = .refused) then 1 else 0

theorem run_concat (s : SharedRing α) (turns : List (Turn α)) (turn : Turn α) :
    s.run (turns ++ [turn]) = (s.run turns).step turn :=
  List.foldl_append

theorem collect_concat (about : SharedRing α → Turn α → Option β) (s : SharedRing α)
    (turns : List (Turn α)) (turn : Turn α) :
    collect about s (turns ++ [turn]) = collect about s turns ++ (about (s.run turns) turn).toList := by
  induction turns generalizing s with
  | nil => exact List.append_nil _
  | cons first turns ih => rw [List.cons_append, collect, ih, collect, List.append_assoc]; rfl

theorem pushed_concat (s : SharedRing α) (turns : List (Turn α)) (turn : Turn α) :
    s.pushed (turns ++ [turn]) = s.pushed turns ++ ((s.run turns).pushed? turn).toList :=
  collect_concat pushed? s turns turn

theorem begun_concat (s : SharedRing α) (turns : List (Turn α)) (turn : Turn α) :
    s.begun (turns ++ [turn]) = s.begun turns ++ ((s.run turns).begun? turn).toList :=
  collect_concat begun? s turns turn

/-! ## One turn -/

/-- Only the receiver whose push has the lock can go on. -/
theorem step_advance_cases (s : SharedRing α) (receiver : Nat) :
    (∃ push, s.current = some push ∧ push.receiver = receiver ∧
      s.step (.advance receiver) = s.goOn push) ∨
    (s.step (.advance receiver) = s ∧ s.pushed? (.advance receiver) = none) := by
  unfold step pushed?
  cases hcurrent : s.current with
  | none => exact .inr ⟨rfl, rfl⟩
  | some push =>
    by_cases hreceiver : push.receiver = receiver
    · exact .inl ⟨push, rfl, hreceiver, if_pos hreceiver⟩
    · exact .inr ⟨if_neg hreceiver, if_neg fun h => hreceiver h.1⟩

theorem pushed?_advance (h : s.current = some push) : s.pushed? (.advance push.receiver) =
    if push.stage = .begun then some (push.entry, s.ring.waiting.length) else none := by
  simp only [pushed?, h, true_and]

/-- The consumer takes the entry that has waited longest. -/
theorem pop_held (sink : RingSink α) : sink.pop.1.toList ++ sink.pop.2.waiting = sink.waiting := by
  unfold RingSink.pop
  cases h : sink.waiting with
  | nil => exact h
  | cons entry rest => rfl

theorem pop_eq (sink : RingSink α) :
    sink.pop.2.capacity = sink.capacity ∧ sink.pop.2.dropped = sink.dropped := by
  unfold RingSink.pop
  split <;> exact ⟨rfl, rfl⟩

theorem step_room (s : SharedRing α) (turn : Turn α) : (s.step turn).ring.room = s.ring.room := by
  unfold RingSink.room
  cases turn with
  | lock receiver entry => rw [step]; split <;> rfl
  | pop => rw [step, (pop_eq s.ring).1]
  | advance receiver =>
    rcases s.step_advance_cases receiver with ⟨push, -, -, hstep⟩ | ⟨hstep, -⟩
    · rw [hstep, goOn]
      cases push.stage with
      | begun => by_cases hroom : s.ring.waiting.length < s.ring.room <;> simp [RingSink.offer?, hroom]
      | refused | settled => rfl
    · rw [hstep]

/-- An entry that is offered while there is room waits, and no other one comes or goes. -/
theorem step_held (s : SharedRing α) (turn : Turn α) :
    (s.step turn).popped ++ (s.step turn).ring.waiting = s.popped ++ s.ring.waiting ++
      ((s.pushed? turn).toList.filter (·.2 < s.ring.room)).map Prod.fst := by
  cases turn with
  | lock receiver entry => rw [step]; split <;> exact (List.append_nil _).symm
  | pop =>
    rw [step, List.append_assoc, pop_held]
    exact (List.append_nil _).symm
  | advance receiver =>
    rcases s.step_advance_cases receiver with ⟨push, hcurrent, rfl, hstep⟩ | ⟨hstep, hnone⟩
    · rw [hstep, pushed?_advance hcurrent, goOn]
      cases push.stage with
      | begun => by_cases hroom : s.ring.waiting.length < s.ring.room <;> simp [RingSink.offer?, hroom]
      | refused | settled => exact (List.append_nil _).symm
    · rw [hstep, hnone]
      exact (List.append_nil _).symm

/-- An entry that is offered while there is no room is counted or will be, and no other one is. -/
theorem step_dropped (s : SharedRing α) (turn : Turn α) :
    (s.step turn).ring.dropped + (s.step turn).uncounted = s.ring.dropped + s.uncounted +
      ((s.pushed? turn).toList.filter (¬ ·.2 < s.ring.room)).length := by
  cases turn with
  | lock receiver entry =>
    rw [step]
    split
    · next hfree => simp [uncounted, pushed?, Option.isNone_iff_eq_none.mp hfree]
    · rfl
  | pop => rw [step, (pop_eq s.ring).2]; rfl
  | advance receiver =>
    rcases s.step_advance_cases receiver with ⟨push, hcurrent, rfl, hstep⟩ | ⟨hstep, hnone⟩
    · rw [hstep, pushed?_advance hcurrent, goOn]
      cases hstage : push.stage with
      | begun =>
        by_cases hroom : s.ring.waiting.length < s.ring.room <;>
          simp [RingSink.offer?, hroom, uncounted, hcurrent, hstage, Nat.le_of_not_lt]
      | refused | settled => simp [uncounted, hcurrent, hstage, RingSink.countDrop]
    · rw [hstep, hnone]
      rfl

/-- A push that has got the lock offers its entry once. -/
theorem step_pending (s : SharedRing α) (turn : Turn α) :
    (s.pushed? turn).toList.map Prod.fst ++ (s.step turn).pending.toList =
      s.pending.toList ++ (s.begun? turn).toList := by
  cases turn with
  | lock receiver entry =>
    cases hcurrent : s.current <;> simp [step, pushed?, begun?, pending, hcurrent]
  | pop => exact (List.append_nil _).symm
  | advance receiver =>
    rcases s.step_advance_cases receiver with ⟨push, hcurrent, rfl, hstep⟩ | ⟨hstep, hnone⟩
    · rw [hstep, pushed?_advance hcurrent, goOn]
      cases hstage : push.stage with
      | begun => cases s.ring.offer? push.entry <;> simp [pending, begun?, hcurrent, hstage]
      | refused | settled => simp [pending, begun?, hcurrent, hstage]
    · rw [hstep, hnone]
      exact (List.append_nil _).symm

/-- No more entries wait than there is room for. -/
theorem step_waiting_le (h : s.ring.waiting.length ≤ s.ring.room) (turn : Turn α) :
    (s.step turn).ring.waiting.length ≤ s.ring.room := by
  cases turn with
  | lock receiver entry => rw [step]; split <;> exact h
  | pop =>
    have hlength := congrArg List.length (pop_held s.ring)
    rw [List.length_append] at hlength
    exact Nat.le_trans (Nat.le_add_left _ _) (hlength ▸ h)
  | advance receiver =>
    rcases s.step_advance_cases receiver with ⟨push, -, -, hstep⟩ | ⟨hstep, -⟩
    · rw [hstep, goOn]
      cases push.stage with
      | begun =>
        by_cases hroom : s.ring.waiting.length < s.ring.room
        · simp only [RingSink.offer?, if_pos hroom, List.length_append]
          exact hroom
        · simpa [RingSink.offer?, hroom] using h
      | refused | settled => exact h
    · rwa [hstep]

/-- What is pushed is told with the number of entries that wait. -/
theorem snd_of_mem_pushed? {entry : α × Nat} (h : entry ∈ s.pushed? turn) :
    entry.2 = s.ring.waiting.length := by
  cases turn with
  | lock receiver entry => exact absurd h nofun
  | pop => exact absurd h nofun
  | advance receiver =>
    rcases s.step_advance_cases receiver with ⟨push, hcurrent, rfl, -⟩ | ⟨-, hnone⟩
    · rw [pushed?_advance hcurrent] at h
      split at h
      · rw [← Option.some.inj h]
      · exact absurd h nofun
    · rw [hnone] at h
      exact absurd h nofun

/-! ## Runs -/

theorem run_room (s : SharedRing α) (turns : List (Turn α)) :
    (s.run turns).ring.room = s.ring.room := by
  induction turns using List.reverseRecOn with
  | nil => rfl
  | append_singleton turns turn ih => rw [run_concat, step_room, ih]

theorem run_held (s : SharedRing α) (turns : List (Turn α)) :
    (s.run turns).popped ++ (s.run turns).ring.waiting = s.popped ++ s.ring.waiting ++
      ((s.pushed turns).filter (·.2 < s.ring.room)).map Prod.fst := by
  induction turns using List.reverseRecOn with
  | nil => exact (List.append_nil _).symm
  | append_singleton turns turn ih =>
    rw [run_concat, step_held, ih, run_room, pushed_concat, List.filter_append, List.map_append,
      List.append_assoc]

theorem run_dropped (s : SharedRing α) (turns : List (Turn α)) :
    (s.run turns).ring.dropped + (s.run turns).uncounted = s.ring.dropped + s.uncounted +
      ((s.pushed turns).filter (¬ ·.2 < s.ring.room)).length := by
  induction turns using List.reverseRecOn with
  | nil => rfl
  | append_singleton turns turn ih =>
    rw [run_concat, step_dropped, ih, run_room, pushed_concat, List.filter_append, List.length_append,
      Nat.add_assoc]

theorem run_pending (s : SharedRing α) (turns : List (Turn α)) :
    (s.pushed turns).map Prod.fst ++ (s.run turns).pending.toList =
      s.pending.toList ++ s.begun turns := by
  induction turns using List.reverseRecOn with
  | nil => exact (List.append_nil _).symm
  | append_singleton turns turn ih =>
    rw [run_concat, pushed_concat, List.map_append, List.append_assoc, step_pending,
      ← List.append_assoc, ih, begun_concat, List.append_assoc]

theorem run_waiting_le (h : s.ring.waiting.length ≤ s.ring.room) (turns : List (Turn α)) :
    (s.run turns).ring.waiting.length ≤ s.ring.room := by
  induction turns using List.reverseRecOn with
  | nil => exact h
  | append_singleton turns turn ih =>
    rw [run_concat, ← run_room s turns]
    exact step_waiting_le ((run_room s turns).symm ▸ ih) turn

/-- At the moment of a push no more entries wait than there is room for. -/
theorem le_of_mem_pushed (h : s.ring.waiting.length ≤ s.ring.room) {entry : α × Nat}
    (hmem : entry ∈ s.pushed turns) : entry.2 ≤ s.ring.room := by
  induction turns using List.reverseRecOn with
  | nil => exact absurd hmem List.not_mem_nil
  | append_singleton turns turn ih =>
    rw [pushed_concat, List.mem_append, Option.mem_toList] at hmem
    rcases hmem with hmem | hmem
    · exact ih hmem
    · rw [snd_of_mem_pushed? hmem]
      exact run_waiting_le h turns

/-- **What the consumer has popped, followed by what waits, is what receivers have pushed, in order, without
exactly those entries that were pushed while as many waited as there is room for. The number of dropped
entries is the number of those, less one while a push has yet to count its own.** Every push that has got
the lock has pushed its entry or is about to, whatever the other receivers and the consumer do meanwhile. -/
theorem run_conserves (capacity : Nat) (turns : List (Turn α)) :
    ((start capacity).run turns).popped ++ ((start capacity).run turns).ring.waiting =
        (((start capacity).pushed turns).filter (·.2 ≠ max 1 capacity)).map Prod.fst ∧
      ((start capacity).run turns).ring.dropped + ((start capacity).run turns).uncounted =
        (((start capacity).pushed turns).filter (·.2 = max 1 capacity)).length ∧
      ((start capacity).pushed turns).map Prod.fst ++ ((start capacity).run turns).pending.toList =
        (start capacity).begun turns ∧
      ((start capacity).run turns).ring.waiting.length ≤ max 1 capacity := by
  have hroom : (start capacity : SharedRing α).ring.room = max 1 capacity := rfl
  have hempty : (start capacity : SharedRing α).ring.waiting.length ≤ max 1 capacity := Nat.zero_le _
  have hle : ∀ entry ∈ (start capacity).pushed turns, entry.2 ≤ max 1 capacity :=
    fun entry => le_of_mem_pushed hempty
  refine ⟨?_, ?_, run_pending _ turns, run_waiting_le hempty turns⟩
  · rw [run_held, hroom]
    refine congrArg (List.map Prod.fst) (List.filter_congr fun entry hmem => ?_)
    exact decide_eq_decide.mpr ⟨Nat.ne_of_lt, Nat.lt_of_le_of_ne (hle entry hmem)⟩
  · rw [run_dropped, hroom]
    refine (Nat.zero_add _).trans (congrArg List.length (List.filter_congr fun entry hmem => ?_))
    exact decide_eq_decide.mpr
      ⟨fun h => Nat.le_antisymm (hle entry hmem) (Nat.le_of_not_lt h),
        fun h => Nat.not_lt_of_ge (Nat.le_of_eq h.symm)⟩

end LogIntake.SharedRing
