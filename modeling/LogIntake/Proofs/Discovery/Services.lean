import LogIntake.Discovery.Basic
import Mathlib.Data.List.Induction
import Mathlib.Data.List.Sort
import Mathlib.Data.String.Basic

/-!
# Services in the order of their keys

* `Discovery.known`: what a list of services holds under a key; `Discovery.Ordered`: each service comes
  before those that its key precedes.
* `known_insert`, `known_filter`: what a change leaves under each key.
* **`Ordered.ext`**: an ordered list is determined by what it holds under each key.
* `Discovery.lastOn`: the last notification about a service; **`known_replay`**: nothing else matters to
  a listener.
-/

namespace LogIntake

/-! ## The order of keys -/

namespace ServiceKey

variable {a b c : ServiceKey}

theorem precedes_iff : a.precedes b = true ↔ a.type < b.type ∨ a.type = b.type ∧ a.name < b.name := by
  simp [precedes]

theorem not_precedes_self (a : ServiceKey) : ¬ a.precedes a = true := by
  simp [precedes_iff]

theorem precedes_trans (hab : a.precedes b = true) (hbc : b.precedes c = true) :
    a.precedes c = true := by
  rw [precedes_iff] at hab hbc ⊢
  obtain hab | ⟨htype, hname⟩ := hab
  · obtain hbc | ⟨hbc, -⟩ := hbc
    · exact .inl (hab.trans hbc)
    · exact .inl (hbc ▸ hab)
  · rw [htype]
    exact hbc.imp_right (And.imp_right hname.trans)

theorem precedes_or_precedes (hne : a ≠ b) : a.precedes b = true ∨ b.precedes a = true := by
  simp only [precedes_iff]
  obtain htype | htype | htype := lt_trichotomy a.type b.type
  · exact .inl (.inl htype)
  · obtain hname | hname | hname := lt_trichotomy a.name b.name
    · exact .inl (.inr ⟨htype, hname⟩)
    · refine absurd ?_ hne
      cases a
      cases b
      congr
    · exact .inr (.inr ⟨htype.symm, hname⟩)
  · exact .inr (.inl htype)

theorem not_precedes_of_precedes (hab : a.precedes b = true) : ¬ b.precedes a = true :=
  fun hba => not_precedes_self a (precedes_trans hab hba)

end ServiceKey

namespace Discovery

variable {s : Service} {services services' : List Service} {key : ServiceKey}

/-! ## What is known under a key -/

/-- What a list of services holds under a key. -/
def known (services : List Service) (key : ServiceKey) : Option Service :=
  services.find? (·.key = key)

/-- Services under other keys make no difference to what is known under a key. -/
theorem known_filter_of_imp {p : Service → Bool} (h : ∀ s, s.key = key → p s = true) :
    known (services.filter p) key = known services key := by
  rw [known, known, List.find?_filter]
  congr
  funext s
  by_cases hs : s.key = key
  · simp [hs, h s hs]
  · simp [hs]

theorem known_filter_of_not {p : Service → Bool} (h : ∀ s, s.key = key → ¬ p s = true) :
    known (services.filter p) key = none := by
  refine List.find?_eq_none.mpr fun s hs hkey => ?_
  exact h s (of_decide_eq_true hkey) (List.of_mem_filter hs)

theorem known_filter (services : List Service) (gone key : ServiceKey) :
    known (services.filter (·.key ≠ gone)) key = if gone = key then none else known services key := by
  by_cases hkey : gone = key
  · rw [if_pos hkey]
    exact known_filter_of_not fun s hs => by simp [hs, hkey]
  · rw [if_neg hkey]
    exact known_filter_of_imp fun s hs => by simpa [hs] using Ne.symm hkey

theorem known_insert (s : Service) (services : List Service) (key : ServiceKey) :
    known (insert s services) key = if s.key = key then some s else known services key := by
  have happend : known (insert s services) key =
      (known (services.filter (·.key.precedes s.key)) key).or
        (known (s :: services.filter fun other => s.key.precedes other.key) key) := List.find?_append
  by_cases hkey : s.key = key
  · have hnone : known (services.filter (·.key.precedes s.key)) key = none :=
      known_filter_of_not fun other hother => by
        rw [hother, hkey]
        exact ServiceKey.not_precedes_self key
    rw [happend, hnone, if_pos hkey]
    simp [known, hkey]
  · have hcons : known (s :: services.filter fun other => s.key.precedes other.key) key =
        known (services.filter fun other => s.key.precedes other.key) key := by
      simp [known, hkey]
    rw [happend, hcons, if_neg hkey]
    obtain hlt | hgt := ServiceKey.precedes_or_precedes hkey
    · have hnone : known (services.filter (·.key.precedes s.key)) key = none :=
        known_filter_of_not fun other hother => by
          rw [hother]
          exact ServiceKey.not_precedes_of_precedes hlt
      rw [hnone, Option.none_or]
      exact known_filter_of_imp fun other hother => hother ▸ hlt
    · have hnone : known (services.filter fun other => s.key.precedes other.key) key = none :=
        known_filter_of_not fun other hother => by
          rw [hother]
          exact ServiceKey.not_precedes_of_precedes hgt
      rw [hnone, Option.or_none]
      exact known_filter_of_imp fun other hother => hother ▸ hgt

/-! ## Ordered lists -/

/-- Each service comes before those that its key precedes. -/
def Ordered (services : List Service) : Prop :=
  services.Pairwise fun a b => a.key.precedes b.key = true

namespace Ordered

theorem nil : Ordered [] := List.Pairwise.nil

theorem filter (h : Ordered services) (p : Service → Bool) : Ordered (services.filter p) :=
  List.Pairwise.filter p h

theorem insert (h : Ordered services) (s : Service) : Ordered (insert s services) := by
  refine List.pairwise_append.mpr ⟨h.filter _, ?_, fun a ha b hb => ?_⟩
  · exact List.pairwise_cons.mpr ⟨fun b hb => by simpa using List.of_mem_filter hb, h.filter _⟩
  · have ha : a.key.precedes s.key = true := by simpa using List.of_mem_filter ha
    obtain rfl | hb := List.mem_cons.mp hb
    · exact ha
    · exact ServiceKey.precedes_trans ha (by simpa using List.of_mem_filter hb)

theorem mem_iff (h : Ordered services) : s ∈ services ↔ known services s.key = some s := by
  constructor
  · intro hs
    obtain ⟨front, back, rfl⟩ := List.append_of_mem hs
    have hfront : known front s.key = none := by
      refine List.find?_eq_none.mpr fun other hother hkey => ?_
      have hlt := (List.pairwise_append.mp h).2.2 other hother s List.mem_cons_self
      rw [of_decide_eq_true hkey] at hlt
      exact ServiceKey.not_precedes_self s.key hlt
    have happend : known (front ++ s :: back) s.key =
        (known front s.key).or (known (s :: back) s.key) := List.find?_append
    rw [happend, hfront]
    simp [known]
  · exact List.mem_of_find?_eq_some

/-- **An ordered list is determined by what it holds under each key.** -/
theorem ext (h : Ordered services) (h' : Ordered services')
    (hknown : ∀ key, known services key = known services' key) : services = services' := by
  have hasymm : Std.Antisymm fun a b : Service => a.key.precedes b.key = true :=
    ⟨fun _ _ hab hba => absurd hba (ServiceKey.not_precedes_of_precedes hab)⟩
  have hirrefl : Std.Irrefl fun a b : Service => a.key.precedes b.key = true :=
    ⟨fun a => ServiceKey.not_precedes_self a.key⟩
  exact List.Pairwise.eq_of_mem_iff h h' fun s => by rw [h.mem_iff, h'.mem_iff, hknown]

end Ordered

end Discovery

/-! ## What a listener believes -/

namespace Notification

/-- The key of the service that is told about. -/
def key : Notification → ServiceKey
  | .resolved service => service.key
  | .removed key => key

/-- What is known of the service from now on. -/
def service? : Notification → Option Service
  | .resolved service => some service
  | .removed _ => none

/-- What a notification makes of the services that were known. -/
def applyTo (services : List Service) : Notification → List Service
  | .resolved service => Discovery.insert service services
  | .removed key => services.filter (·.key ≠ key)

theorem eq_resolved {n : Notification} {s : Service} (h : n.service? = some s) :
    n = .resolved s := by
  cases n with
  | resolved service => exact congrArg Notification.resolved (Option.some_inj.mp h)
  | removed => cases h

theorem eq_removed {n : Notification} (h : n.service? = none) : n = .removed n.key := by
  cases n with
  | resolved => cases h
  | removed => rfl

theorem known_applyTo (services : List Service) (n : Notification) (key : ServiceKey) :
    Discovery.known (n.applyTo services) key =
      if n.key = key then n.service? else Discovery.known services key := by
  cases n with
  | resolved service => exact Discovery.known_insert service services key
  | removed gone => exact Discovery.known_filter services gone key

end Notification

namespace Discovery

variable {told told' : List Notification} {n : Notification} {key : ServiceKey}

theorem Ordered.applyTo {services : List Service} (h : Ordered services) (n : Notification) :
    Ordered (n.applyTo services) := by
  cases n with
  | resolved service => exact h.insert service
  | removed key => exact h.filter _

theorem replay_concat (told : List Notification) (n : Notification) :
    replay (told ++ [n]) = n.applyTo (replay told) := by
  rw [replay, replay, List.foldl_append]
  cases n <;> rfl

theorem ordered_replay (told : List Notification) : Ordered (replay told) := by
  induction told using List.reverseRecOn with
  | nil => exact .nil
  | append_singleton told n ih =>
    rw [replay_concat]
    exact ih.applyTo n

/-- The last notification about a service. -/
def lastOn (key : ServiceKey) (told : List Notification) : Option Notification :=
  (told.filter (·.key = key)).getLast?

theorem lastOn_concat (key : ServiceKey) (told : List Notification) (n : Notification) :
    lastOn key (told ++ [n]) = if n.key = key then some n else lastOn key told := by
  rw [lastOn, List.filter_append]
  by_cases hkey : n.key = key <;> simp [lastOn, hkey]

theorem key_of_lastOn (h : lastOn key told = some n) : n.key = key := by
  simpa using (List.mem_filter.mp (List.mem_of_getLast? h)).2

/-- **What a listener knows of a service is what it has been told last about it.** -/
theorem known_replay (key : ServiceKey) (told : List Notification) :
    known (replay told) key = (lastOn key told).bind Notification.service? := by
  induction told using List.reverseRecOn with
  | nil => rfl
  | append_singleton told n ih =>
    rw [replay_concat, Notification.known_applyTo, lastOn_concat, ih]
    split <;> rfl

end Discovery

end LogIntake
