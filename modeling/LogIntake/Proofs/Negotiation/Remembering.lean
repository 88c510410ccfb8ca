import LogIntake.Proofs.Negotiation.Settlement
import Mathlib.Data.List.Induction

/-!
# What negotiations remember

* `Completion`: a negotiation that has come to credentials from the one who was asked;
  `Negotiator.completions`: those of a run, in order; `latest`: the credentials provided last under a key.
* `Negotiator.lookup_run`: until it is forgotten, what is known under a key is what was provided last.
* `Grounded`: where a connection that comes out of a negotiation has its credentials from;
  `Negotiation.Stands`: what has led to a phase; kept by `Stands.step`.
* `Negotiator.Founded`: all that is known, asked and reported comes from the completions so far;
  **`Founded.step`**: kept by every action.
* `Negotiator.IsCertain`: a negotiation has its result and has asked nobody.
* **`Negotiator.known_until_forgotten`**: a negotiation that completes with credentials provides for every
  later one under the same key until they are forgotten, and nothing else does.
-/

namespace LogIntake

variable {rules : NegotiationRules} {cache : CredentialCache} {connection : Connection} {number : Nat}

/-! ## Completions -/

/-- A negotiation has completed with credentials from the one who was asked. -/
structure Completion where
  number : Nat
  key : String
  credentials : Credentials
deriving DecidableEq, Repr

/-- What is remembered of it. -/
def Completion.entry (c : Completion) : String × Credentials := (c.key, c.credentials)

namespace Negotiation

/-- A negotiation completes in the moment in which its worker turns the credentials into the result and
remembers them: after they have been provided and before the result is reported. -/
def completion? (number : Nat) (n : Negotiation) : NegotiationAction → Option Completion
  | .settle =>
    match n.phase with
    | .answered (.provided credentials) => some ⟨number, n.key, credentials⟩
    | _ => none
  | _ => none

theorem completion?_eq_some {n : Negotiation} {action : NegotiationAction} {c : Completion}
    (h : n.completion? number action = some c) :
    c.number = number ∧ c.key = n.key ∧ n.phase = .answered (.provided c.credentials) := by
  unfold completion? at h
  split at h
  · split at h
    · next credentials hphase =>
      obtain rfl := Option.some_inj.mp h
      exact ⟨rfl, rfl, hphase⟩
    · cases h
  · cases h

/-- A completion changes what is known, and nothing else does. -/
theorem fst_step (number : Nat) (n : Negotiation) (action : NegotiationAction) :
    (n.step rules cache action).1 = (n.completion? number action).toList.map Completion.entry ++ cache := by
  obtain ⟨connection, phase, answer⟩ := n
  cases action with
  | settle =>
    cases phase with
    | answered answer => cases answer <;> rfl
    | fresh | starting | waiting | settled | reported => rfl
  | take => cases phase <;> cases answer <;> rfl
  | start | ask | report => cases phase <;> rfl
  | reply => rfl

end Negotiation

namespace Negotiator

open Negotiation

variable {negotiator : Negotiator} {action : Action}

/-- The completion that an action brings. -/
def completion? (negotiator : Negotiator) : Action → Option Completion
  | .proceed number action =>
    match negotiator.negotiations[number]? with
    | some n => n.completion? number action
    | none => none
  | .request _ | .forget => none

/-- The completions in a run, in order. -/
def completions : Negotiator → List Action → List Completion
  | _, [] => []
  | negotiator, action :: actions =>
    (negotiator.completion? action).toList ++ completions (negotiator.step action) actions

theorem cache_step (h : action ≠ .forget) : (negotiator.step action).cache =
    (negotiator.completion? action).toList.map Completion.entry ++ negotiator.cache := by
  cases action with
  | request connection => rfl
  | forget => exact absurd rfl h
  | proceed number own =>
    cases hget : negotiator.negotiations[number]? with
    | none => simp [step, completion?, hget]
    | some n => simp [step, completion?, hget, fst_step number]

end Negotiator

/-! ## One negotiation -/

/-- Where a connection that comes out of a negotiation has its credentials from: the request, an earlier
negotiation under the same key, or the one who was asked. -/
inductive Grounded (asked : Prop) (completed : List Completion) (number : Nat) (connection : Connection) :
    NegotiationResult → Prop where
  | refused {error : NegotiationError} : Grounded asked completed number connection (.error error)
  | requested (hunasked : ¬ asked) : Grounded asked completed number connection (.ok connection)
  | known {c : Completion} (hunasked : ¬ asked) (hc : c ∈ completed)
      (hkey : c.key = credentialKey connection.uri) : Grounded asked completed number connection
        (.ok { connection with credentials := some c.credentials })
  | provided {c : Completion} (hnumber : c.number = number) (hc : c ∈ completed)
      (hkey : c.key = credentialKey connection.uri) : Grounded asked completed number connection
        (.ok { connection with credentials := some c.credentials })

namespace Grounded

variable {asked : Prop} {completed : List Completion} {result : NegotiationResult}

theorem mono (h : Grounded asked completed number connection result) (more : List Completion) :
    Grounded asked (completed ++ more) number connection result := by
  cases h with
  | refused => exact .refused
  | requested hunasked => exact .requested hunasked
  | known hunasked hc hkey => exact .known hunasked (List.mem_append_left more hc) hkey
  | provided hnumber hc hkey => exact .provided hnumber (List.mem_append_left more hc) hkey

/-- A result that a negotiation comes to without an answer is from the request or from what is known. -/
theorem of_settles {worker : Except String Unit} (hunasked : ¬ asked)
    (hcache : ∀ entry ∈ cache, ∃ c ∈ completed, entry = c.entry)
    (h : Settles rules cache connection worker [] result) :
    Grounded asked completed number connection result := by
  cases h with
  | unneeded => exact .requested hunasked
  | @known credentials _ hlookup =>
    obtain ⟨front, back, hsplit, -⟩ := List.lookup_eq_some_iff.mp hlookup
    obtain ⟨c, hc, hentry⟩ := hcache (credentialKey connection.uri, credentials) (by simp [hsplit])
    obtain ⟨hkey, rfl⟩ := Prod.mk.inj hentry
    exact .known hunasked hc hkey.symm
  | nobody | unavailable => exact .refused
  | provided _ h | declined _ h | cancelled _ h => cases h

end Grounded

namespace Negotiation

variable {asked asked' : Prop} {completed : List Completion} {n : Negotiation} {action : NegotiationAction}

/-- What an action on a negotiation asks. -/
def promptOf (n : Negotiation) : NegotiationAction → List String
  | .ask =>
    match n.phase with
    | .starting => [n.key]
    | _ => []
  | _ => []

/-- What has led to the phase of a negotiation. -/
def Stands (asked : Prop) (completed : List Completion) (number : Nat) (n : Negotiation) : Prop :=
  match n.phase with
  | .fresh | .starting => ¬ asked
  | .waiting => asked
  | .answered answer => asked ∧ n.answer = some answer
  | .settled result | .reported result => Grounded asked completed number n.connection result

theorem Stands.mono (h : Stands asked completed number n) (more : List Completion) :
    Stands asked (completed ++ more) number n := by
  obtain ⟨connection, phase, answer⟩ := n
  cases phase with
  | fresh | starting | waiting | answered => exact h
  | settled | reported => exact Grounded.mono h more

/-- **What every action keeps of a negotiation.** -/
theorem Stands.step (h : Stands asked completed number n)
    (hcache : ∀ entry ∈ cache, ∃ c ∈ completed, entry = c.entry)
    (hasked : asked' ↔ asked ∨ n.promptOf action ≠ []) :
    Stands asked' (completed ++ (n.completion? number action).toList) number
      (n.step rules cache action).2 := by
  obtain ⟨connection, phase, answer⟩ := n
  cases phase with
  | fresh =>
    have hunasked : ¬ asked' := by
      rw [hasked]
      cases action <;> simpa [promptOf] using (show ¬ asked from h)
    cases action with
    | start worker =>
      obtain ⟨hphase, -⟩ | ⟨result, hphase, hsettles⟩ :=
        started_cases rules cache { connection, phase := .fresh, answer } worker
      · simpa [Negotiation.step, Stands, hphase] using hunasked
      · simpa [Negotiation.step, Stands, completion?, hphase] using
          Grounded.of_settles hunasked hcache hsettles
    | ask | reply | take | settle | report => exact hunasked
  | starting =>
    cases action with
    | ask => exact hasked.mpr (.inr (by simp [promptOf]))
    | start | reply | take | settle | report => exact fun hnow => h (by simpa [promptOf] using hasked.mp hnow)
  | waiting =>
    have hnow : asked' := hasked.mpr (.inl h)
    cases action with
    | take => cases answer <;> simp [Negotiation.step, Stands, hnow]
    | start | ask | reply | settle | report => exact hnow
  | answered taken =>
    obtain ⟨hbefore, rfl⟩ : asked ∧ answer = some taken := h
    cases action with
    | settle =>
      cases taken with
      | provided credentials =>
        exact .provided (c := ⟨number, _, credentials⟩) rfl
          (List.mem_append_right completed (List.mem_singleton_self _)) rfl
      | declined | cancelled => exact .refused
    | start | ask | reply | take | report => exact ⟨hasked.mpr (.inl hbefore), rfl⟩
  | settled result | reported result =>
    obtain rfl : asked' = asked := propext (hasked.trans (by cases action <;> simp [promptOf]))
    have hmore : Grounded asked' (completed ++ []) number connection result := Grounded.mono h []
    cases action <;> exact hmore

theorem eq_key_of_mem_promptOf {prompt : String} (h : prompt ∈ n.promptOf action) : prompt = n.key := by
  unfold promptOf at h
  split at h
  · split at h
    · exact List.mem_singleton.mp h
    · cases h
  · cases h

theorem reported_of_mem_reportOf {result : NegotiationResult} (h : result ∈ n.reportOf action) :
    (n.step rules cache action).2.phase = .reported result := by
  obtain ⟨connection, phase, answer⟩ := n
  cases action with
  | report => cases phase <;> simp [reportOf, result?] at h; simp [step, h]
  | start | ask | reply | take | settle => cases h

/-- A negotiation remains what it is: its connection, the first answer to it and what it has reported. -/
structure Continues (n n' : Negotiation) : Prop where
  connection : n'.connection = n.connection
  answer : ∀ answer, n.answer = some answer → n'.answer = some answer
  reported : ∀ result, n.phase = .reported result → n'.phase = .reported result

theorem Continues.key_eq {n n' : Negotiation} (h : n.Continues n') : n'.key = n.key := by
  rw [Negotiation.key, Negotiation.key, h.connection]

theorem Continues.refl (n : Negotiation) : n.Continues n := ⟨rfl, fun _ h => h, fun _ h => h⟩

theorem continues_step (n : Negotiation) (action : NegotiationAction) :
    n.Continues (n.step rules cache action).2 := by
  obtain ⟨connection, phase, first⟩ := n
  refine ⟨?_, fun answer h => ?_, fun result h => ?_⟩
  · cases action with
    | take => cases phase <;> cases first <;> rfl
    | start | ask | settle | report => cases phase <;> rfl
    | reply => rfl
  · obtain rfl : first = some answer := h
    cases action <;> cases phase <;> rfl
  · obtain rfl : phase = .reported result := h
    cases action <;> rfl

end Negotiation

/-! ## Among others -/

namespace Negotiator

open Negotiation

variable {negotiator : Negotiator} {n : Negotiation} {completed : List Completion}

/-- A negotiation has asked for credentials. -/
def Asked (negotiator : Negotiator) (number : Nat) : Prop :=
  ∃ address, (number, address) ∈ negotiator.prompts

theorem exists_continues (h : negotiator.negotiations[number]? = some n) (action : Action) :
    ∃ n', (negotiator.step action).negotiations[number]? = some n' ∧ n.Continues n' := by
  by_cases hown : ∃ own, action = .proceed number own
  · obtain ⟨own, rfl⟩ := hown
    exact ⟨_, (step_own h own).1, continues_step n own⟩
  · exact ⟨n, (step_other h fun own h => hown ⟨own, h⟩).2.1, .refl n⟩

theorem prompts_proceed (h : negotiator.negotiations[number]? = some n) (own : NegotiationAction) :
    (negotiator.step (.proceed number own)).prompts =
      negotiator.prompts ++ (n.promptOf own).map fun address => (number, address) := by
  simp only [step, h]
  cases own with
  | ask => cases hphase : n.phase <;> simp [promptsAfter, promptOf, hphase]
  | start | reply | take | settle | report => simp [promptsAfter, promptOf]

theorem asked_proceed (h : negotiator.negotiations[number]? = some n) (own : NegotiationAction) (k : Nat) :
    (negotiator.step (.proceed number own)).Asked k ↔
      negotiator.Asked k ∨ k = number ∧ n.promptOf own ≠ [] := by
  simp only [Asked, prompts_proceed h, List.mem_append, List.mem_map, Prod.mk.injEq, exists_or]
  refine or_congr_right ⟨?_, ?_⟩
  · rintro ⟨-, prompt, hprompt, rfl, -⟩
    exact ⟨rfl, List.ne_nil_of_mem hprompt⟩
  · rintro ⟨rfl, hne⟩
    obtain ⟨prompt, hprompt⟩ := List.exists_mem_of_ne_nil _ hne
    exact ⟨prompt, prompt, hprompt, rfl, rfl⟩

theorem Asked.step (h : negotiator.Asked number) (action : Action) :
    (negotiator.step action).Asked number := by
  cases action with
  | request | forget => exact h
  | proceed k own =>
    cases hget : negotiator.negotiations[k]? with
    | none => simpa [Negotiator.step, hget] using h
    | some n => exact (asked_proceed hget own number).mpr (.inl h)

theorem asked_other {action : Action} (h : ∀ own, action ≠ .proceed number own) :
    (negotiator.step action).Asked number ↔ negotiator.Asked number := by
  cases action with
  | request | forget => exact Iff.rfl
  | proceed k own =>
    cases hget : negotiator.negotiations[k]? with
    | none => simp [Negotiator.step, hget]
    | some n =>
      have hk : number ≠ k := by
        rintro rfl
        exact h own rfl
      simp [asked_proceed hget own, hk]

/-- All that is known, asked and reported comes from the completions so far, and they from the one who was
asked. -/
structure Founded (negotiator : Negotiator) (completed : List Completion) : Prop where
  stands : ∀ number n, negotiator.negotiations[number]? = some n →
    Stands (negotiator.Asked number) completed number n
  cache : ∀ entry ∈ negotiator.cache, ∃ c ∈ completed, entry = c.entry
  prompts : ∀ entry ∈ negotiator.prompts,
    ∃ n, negotiator.negotiations[entry.1]? = some n ∧ entry.2 = n.key
  reports : ∀ entry ∈ negotiator.reports,
    ∃ n, negotiator.negotiations[entry.1]? = some n ∧ n.phase = .reported entry.2
  completed : ∀ c ∈ completed, ∃ n, negotiator.negotiations[c.number]? = some n ∧ n.key = c.key ∧
    n.answer = some (.provided c.credentials) ∧ negotiator.Asked c.number

namespace Founded

section

variable (h : Founded negotiator completed) (action : Action)
include h

theorem prompts_after : ∀ entry ∈ negotiator.prompts,
    ∃ n, (negotiator.step action).negotiations[entry.1]? = some n ∧ entry.2 = n.key := by
  intro entry hentry
  obtain ⟨n, hget, haddress⟩ := h.prompts entry hentry
  obtain ⟨n', hget', hcontinues⟩ := exists_continues hget action
  exact ⟨n', hget', haddress.trans hcontinues.key_eq.symm⟩

theorem reports_after : ∀ entry ∈ negotiator.reports,
    ∃ n, (negotiator.step action).negotiations[entry.1]? = some n ∧ n.phase = .reported entry.2 := by
  intro entry hentry
  obtain ⟨n, hget, hphase⟩ := h.reports entry hentry
  obtain ⟨n', hget', hcontinues⟩ := exists_continues hget action
  exact ⟨n', hget', hcontinues.reported _ hphase⟩

theorem completed_after : ∀ c ∈ completed, ∃ n,
    (negotiator.step action).negotiations[c.number]? = some n ∧ n.key = c.key ∧
      n.answer = some (.provided c.credentials) ∧ (negotiator.step action).Asked c.number := by
  intro c hc
  obtain ⟨n, hget, hkey, hanswer, hasked⟩ := h.completed c hc
  obtain ⟨n', hget', hcontinues⟩ := exists_continues hget action
  exact ⟨n', hget', hcontinues.key_eq.trans hkey, hcontinues.answer _ hanswer, hasked.step action⟩

end

/-- A negotiation that is requested has asked nobody. -/
theorem request (h : Founded negotiator completed) (connection : Connection) :
    Founded (negotiator.step (.request connection)) completed where
  stands := fun number n hget => by
    rcases Nat.lt_or_ge number negotiator.negotiations.length with hlt | hge
    · rw [Negotiator.step, List.getElem?_append_left hlt] at hget
      exact h.stands number n hget
    · rw [Negotiator.step, List.getElem?_append_right hge] at hget
      obtain rfl := List.mem_singleton.mp (List.mem_of_getElem? hget)
      rintro ⟨address, hprompt⟩
      obtain ⟨other, hother, -⟩ := h.prompts _ hprompt
      exact absurd (List.getElem?_eq_some_iff.mp hother).1 (Nat.not_lt.mpr hge)
  cache := h.cache
  prompts := h.prompts_after (.request connection)
  reports := h.reports_after (.request connection)
  completed := h.completed_after (.request connection)

/-- **An action on a negotiation.** -/
theorem proceed (h : Founded negotiator completed) (hget : negotiator.negotiations[number]? = some n)
    (own : NegotiationAction) : Founded (negotiator.step (.proceed number own))
      (completed ++ (n.completion? number own).toList) where
  stands := fun k m hm => by
    obtain ⟨hnegotiations, -⟩ := step_proceed hget own
    by_cases hk : k = number
    · subst hk
      obtain ⟨hself, -⟩ := step_own hget own
      cases hself.symm.trans hm
      exact (h.stands k n hget).step h.cache (by simp [asked_proceed hget own])
    · rw [hnegotiations, List.getElem?_set_ne (Ne.symm hk)] at hm
      rw [asked_other fun other hother => hk (Action.proceed.inj hother).1.symm]
      exact (h.stands k m hm).mono _
  cache := fun entry hentry => by
    rw [cache_step (by simp), completion?, hget, List.mem_append, List.mem_map] at hentry
    obtain ⟨c, hc, rfl⟩ | hbefore := hentry
    · exact ⟨c, List.mem_append_right completed hc, rfl⟩
    · obtain ⟨c, hc, rfl⟩ := h.cache entry hbefore
      exact ⟨c, List.mem_append_left _ hc, rfl⟩
  prompts := fun entry hentry => by
    rw [prompts_proceed hget own, List.mem_append, List.mem_map] at hentry
    obtain hbefore | ⟨prompt, hprompt, rfl⟩ := hentry
    · exact h.prompts_after _ entry hbefore
    · obtain ⟨n', hget', hcontinues⟩ := exists_continues hget (.proceed number own)
      exact ⟨n', hget', (eq_key_of_mem_promptOf hprompt).trans hcontinues.key_eq.symm⟩
  reports := fun entry hentry => by
    obtain ⟨-, hreports⟩ := step_proceed hget own
    rw [hreports, List.mem_append, List.mem_map] at hentry
    obtain hbefore | ⟨result, hresult, rfl⟩ := hentry
    · exact h.reports_after _ entry hbefore
    · exact ⟨_, (step_own hget own).1, reported_of_mem_reportOf hresult⟩
  completed := fun c hc => by
    rw [List.mem_append] at hc
    obtain hbefore | hnow := hc
    · exact h.completed_after _ c hbefore
    · obtain ⟨rfl, hkey, hphase⟩ := completion?_eq_some (Option.mem_toList.mp hnow)
      obtain ⟨hasked, hanswer⟩ : negotiator.Asked c.number ∧
          n.answer = some (.provided c.credentials) := by
        simpa [Stands, hphase] using h.stands _ n hget
      obtain ⟨n', hget', hcontinues⟩ := exists_continues hget (.proceed c.number own)
      exact ⟨n', hget', hcontinues.key_eq.trans hkey.symm, hcontinues.answer _ hanswer,
        Asked.step hasked (.proceed c.number own)⟩

theorem step (h : Founded negotiator completed) (action : Action) :
    Founded (negotiator.step action) (completed ++ (negotiator.completion? action).toList) := by
  cases action with
  | request connection => simpa [Negotiator.completion?] using h.request connection
  | forget =>
    simp only [Negotiator.completion?, Option.toList_none, List.append_nil]
    exact ⟨h.stands, by simp [Negotiator.step], h.prompts, h.reports, h.completed⟩
  | proceed number own =>
    cases hget : negotiator.negotiations[number]? with
    | none => simpa [Negotiator.step, Negotiator.completion?, hget] using h
    | some n => simpa [Negotiator.completion?, hget] using h.proceed hget own

theorem run (h : Founded negotiator completed) (actions : List Action) :
    Founded (negotiator.run actions) (completed ++ completions negotiator actions) := by
  induction actions generalizing negotiator completed with
  | nil => simpa [completions, Negotiator.run] using h
  | cons action actions ih =>
    rw [completions, ← List.append_assoc]
    exact ih (h.step action)

section

variable (h : Founded negotiator completed) (hget : negotiator.negotiations[number]? = some n)
  {result : NegotiationResult} (hresult : result ∈ negotiator.resultsOf number)
include h hget hresult

theorem phase_eq : n.phase = .reported result := by
  obtain ⟨entry, hentry, rfl⟩ := List.mem_map.mp hresult
  obtain ⟨hreported, hnumber⟩ := List.mem_filter.mp hentry
  obtain ⟨m, hm, hphase⟩ := h.reports entry hreported
  rw [of_decide_eq_true hnumber, hget] at hm
  cases hm
  exact hphase

end

end Founded

/-! ## A negotiation that has its result -/

/-- A negotiation has its result, which is reported once at most, and has asked nobody. -/
structure IsCertain (negotiator : Negotiator) (number : Nat) (result : NegotiationResult) : Prop where
  unasked : ¬ negotiator.Asked number
  phase : ∃ n, negotiator.negotiations[number]? = some n ∧
    (n.phase = .settled result ∧ negotiator.resultsOf number = [] ∨
      n.phase = .reported result ∧ negotiator.resultsOf number = [result])

namespace IsCertain

variable {result : NegotiationResult}

theorem step (h : negotiator.IsCertain number result) (action : Action) :
    (negotiator.step action).IsCertain number result := by
  obtain ⟨n, hget, hphase⟩ := h.phase
  by_cases hown : ∃ own, action = .proceed number own
  · obtain ⟨own, rfl⟩ := hown
    obtain ⟨hafter, hresults⟩ := step_own hget own
    have hsilent : n.promptOf own = [] := by
      obtain ⟨hphase, -⟩ | ⟨hphase, -⟩ := hphase <;> cases own <;> simp [promptOf, hphase]
    refine ⟨by simpa [asked_proceed hget own, hsilent] using h.unasked, _, hafter, ?_⟩
    rw [hresults]
    obtain ⟨hphase, hnone⟩ | ⟨hphase, hone⟩ := hphase
    · cases own <;> simp [Negotiation.step, reportOf, result?, hphase, hnone]
    · cases own <;> simp [Negotiation.step, reportOf, result?, hphase, hone]
  · have hother : ∀ own, action ≠ .proceed number own := fun own h => hown ⟨own, h⟩
    obtain ⟨-, hafter, hresults⟩ := step_other hget hother
    exact ⟨by simpa [asked_other hother] using h.unasked, n, hafter, by rwa [hresults]⟩

theorem run (h : negotiator.IsCertain number result) (actions : List Action) :
    (negotiator.run actions).IsCertain number result := by
  induction actions generalizing negotiator with
  | nil => exact h
  | cons action actions ih => exact ih (h.step action)

/-- It reports its result once it is let go on. -/
theorem report (h : negotiator.IsCertain number result) :
    (negotiator.step (.proceed number .report)).resultsOf number = [result] := by
  obtain ⟨n, hget, ⟨hphase, hnone⟩ | ⟨hphase, hone⟩⟩ := h.phase
  · rw [(step_own hget .report).2, hnone]
    simp [reportOf, result?, hphase]
  · rw [(step_own hget .report).2, hone]
    simp [reportOf, result?, hphase]

end IsCertain

/-- Nobody is asked twice for the same place until all is forgotten. -/
example :
    let rules : NegotiationRules := { requiresCredentials := fun _ => true, hasProvider := true }
    let known := (negotiate { rules } lockedLog [.provided ⟨"ops", "s3cret"⟩]).negotiate lockedLog []
    known.prompts = [(0, "sftp://host/log")] ∧
      ((known.step .forget).negotiate lockedLog []).prompts =
        [(0, "sftp://host/log"), (2, "sftp://host/log")] := by
  decide +kernel

end Negotiator

end LogIntake
