import LogIntake.Negotiation.Negotiator
import Mathlib.Data.List.Basic

/-!
# How a negotiation ends

* `AsksFor`, `Settles`: whether somebody is asked for credentials, and the result that a negotiation
  comes to, from what is known when it begins and the answers to it.
* `Accords`, `Negotiation.Tracks`: what has been reported of a negotiation at each phase; kept by
  `Tracks.step`.
* `Negotiator.resultsOf`, `Negotiator.repliesTo`: the results and the answers of one negotiation.
* `Negotiator.rank_run`: whatever happens in between, a worker that is let go on reports.
* **`Negotiator.settled_once`**: a negotiation reports at most one result, the one that its first answer
  gives, and exactly one if nobody is asked or somebody answers.
-/

namespace LogIntake

variable {rules : NegotiationRules} {cache : CredentialCache} {connection : Connection}
  {worker : Except String Unit} {replies : List CredentialAnswer}

/-! ## Results -/

/-- Somebody is asked for the credentials of a connection: they are needed and not known, there is
somebody to ask, and there is a worker that asks. -/
structure AsksFor (rules : NegotiationRules) (cache : CredentialCache) (connection : Connection)
    (worker : Except String Unit) : Prop where
  needs : rules.needs connection = true
  unknown : cache.lookup (credentialKey connection.uri) = none
  provider : rules.hasProvider = true
  works : worker = .ok ()

/-- The result that a negotiation comes to, where `cache` holds what is known when it begins. -/
inductive Settles (rules : NegotiationRules) (cache : CredentialCache) (connection : Connection)
    (worker : Except String Unit) (replies : List CredentialAnswer) : NegotiationResult → Prop where
  | unneeded (h : rules.needs connection = false) : Settles rules cache connection worker replies
      (.ok connection)
  | known {credentials : Credentials} (hneeds : rules.needs connection = true)
      (h : cache.lookup (credentialKey connection.uri) = some credentials) :
      Settles rules cache connection worker replies
        (.ok { connection with credentials := some credentials })
  | nobody (hneeds : rules.needs connection = true)
      (hunknown : cache.lookup (credentialKey connection.uri) = none)
      (h : rules.hasProvider = false) : Settles rules cache connection worker replies
        (.error (.noProvider (credentialKey connection.uri)))
  | unavailable {reason : String} (hneeds : rules.needs connection = true)
      (hunknown : cache.lookup (credentialKey connection.uri) = none)
      (hprovider : rules.hasProvider = true) (h : worker = .error reason) :
      Settles rules cache connection worker replies
        (.error (.unavailable (credentialKey connection.uri) reason))
  | provided {credentials : Credentials} (hasks : AsksFor rules cache connection worker)
      (h : replies.head? = some (.provided credentials)) :
      Settles rules cache connection worker replies
        (.ok { connection with credentials := some credentials })
  | declined (hasks : AsksFor rules cache connection worker) (h : replies.head? = some .declined) :
      Settles rules cache connection worker replies
        (.error (.declined (credentialKey connection.uri)))
  | cancelled (hasks : AsksFor rules cache connection worker)
      (h : replies.head? = some .cancelled) : Settles rules cache connection worker replies
        (.error (.cancelled (credentialKey connection.uri)))

/-- Later answers have no effect. -/
theorem Settles.append {result : NegotiationResult}
    (h : Settles rules cache connection worker replies result) (later : List CredentialAnswer) :
    Settles rules cache connection worker (replies ++ later) result := by
  have hhead : ∀ {answer : CredentialAnswer}, replies.head? = some answer →
      (replies ++ later).head? = some answer := fun hanswer => by
    rw [List.head?_append, hanswer, Option.some_or]
  cases h with
  | unneeded h => exact .unneeded h
  | known hneeds h => exact .known hneeds h
  | nobody hneeds hunknown h => exact .nobody hneeds hunknown h
  | unavailable hneeds hunknown hprovider h => exact .unavailable hneeds hunknown hprovider h
  | provided hasks h => exact .provided hasks (hhead h)
  | declined hasks h => exact .declined hasks (hhead h)
  | cancelled hasks h => exact .cancelled hasks (hhead h)

/-- A connection that is to be opened is the one that was requested, or the same with the credentials
that are known or have been provided first. -/
theorem Settles.connection_eq {opened : Connection}
    (h : Settles rules cache connection worker replies (.ok opened)) :
    opened = connection ∨ ∃ credentials, opened = { connection with credentials := some credentials } ∧
      (cache.lookup (credentialKey connection.uri) = some credentials ∨
        replies.head? = some (.provided credentials)) := by
  cases h with
  | unneeded => exact .inl rfl
  | known _ h => exact .inr ⟨_, rfl, .inl h⟩
  | provided _ h => exact .inr ⟨_, rfl, .inr h⟩

/-- Where somebody is asked, there is no result without an answer. -/
theorem Settles.ne_nil {result : NegotiationResult} (hasks : AsksFor rules cache connection worker)
    (h : Settles rules cache connection worker replies result) : replies ≠ [] := by
  rintro rfl
  cases h with
  | unneeded h => rw [hasks.needs] at h; cases h
  | known _ h => rw [hasks.unknown] at h; cases h
  | nobody _ _ h => rw [hasks.provider] at h; cases h
  | unavailable _ _ _ h => rw [hasks.works] at h; cases h
  | provided _ h | declined _ h | cancelled _ h => cases h

namespace Negotiation

variable {n : Negotiation} {results : List NegotiationResult} {action : NegotiationAction}

/-- A negotiation begins with the result that it comes to, or with somebody being asked. -/
theorem started_cases (rules : NegotiationRules) (cache : CredentialCache) (n : Negotiation)
    (worker : Except String Unit) :
    n.started rules cache worker = .starting ∧ AsksFor rules cache n.connection worker ∨
      ∃ result, n.started rules cache worker = .settled result ∧
        Settles rules cache n.connection worker [] result := by
  unfold started
  cases hneeds : rules.needs n.connection with
  | false => exact .inr ⟨_, by simp, .unneeded hneeds⟩
  | true =>
    cases hcache : cache.lookup n.key with
    | some credentials => exact .inr ⟨_, by simp [resultWith], .known hneeds hcache⟩
    | none =>
      cases hprovider : rules.hasProvider with
      | false => exact .inr ⟨_, by simp [key], .nobody hneeds hcache hprovider⟩
      | true =>
        cases worker with
        | ok => exact .inl ⟨by simp, hneeds, hcache, hprovider, rfl⟩
        | error reason => exact .inr ⟨_, by simp [key], .unavailable hneeds hcache hprovider rfl⟩

theorem settles_resultOf (hasks : AsksFor rules cache n.connection worker) {answer : CredentialAnswer}
    (h : replies.head? = some answer) :
    Settles rules cache n.connection worker replies (n.resultOf answer) := by
  cases answer with
  | provided credentials => exact .provided hasks h
  | declined => exact .declined hasks h
  | cancelled => exact .cancelled hasks h

end Negotiation

/-! ## One negotiation -/

/-- What has been reported of a negotiation that has begun, by its phase. -/
inductive Accords (rules : NegotiationRules) (cache : CredentialCache) (connection : Connection)
    (worker : Except String Unit) (replies : List CredentialAnswer) :
    NegotiationPhase → List NegotiationResult → Prop where
  | starting (hasks : AsksFor rules cache connection worker) :
      Accords rules cache connection worker replies .starting []
  | waiting (hasks : AsksFor rules cache connection worker) :
      Accords rules cache connection worker replies .waiting []
  | answered {answer : CredentialAnswer} (hasks : AsksFor rules cache connection worker)
      (h : replies.head? = some answer) :
      Accords rules cache connection worker replies (.answered answer) []
  | settled {result : NegotiationResult} (h : Settles rules cache connection worker replies result) :
      Accords rules cache connection worker replies (.settled result) []
  | reported {result : NegotiationResult} (h : Settles rules cache connection worker replies result) :
      Accords rules cache connection worker replies (.reported result) [result]

theorem Accords.append {phase : NegotiationPhase} {results : List NegotiationResult}
    (h : Accords rules cache connection worker replies phase results) (later : List CredentialAnswer) :
    Accords rules cache connection worker (replies ++ later) phase results := by
  cases h with
  | starting hasks => exact .starting hasks
  | waiting hasks => exact .waiting hasks
  | answered hasks h => exact .answered hasks (by rw [List.head?_append, h, Option.some_or])
  | settled h => exact .settled (h.append later)
  | reported h => exact .reported (h.append later)

namespace Negotiation

variable {n : Negotiation} {results : List NegotiationResult}

/-- What an action on a negotiation reports. -/
def reportOf (n : Negotiation) : NegotiationAction → List NegotiationResult
  | .report => n.result?.toList
  | _ => []

/-- What an action answers. -/
def replyOf : NegotiationAction → List CredentialAnswer
  | .reply answer => [answer]
  | _ => []

/-- A negotiation that has begun, with the answers to it and what has been reported of it. It goes by what
was known when it began. -/
structure Tracks (rules : NegotiationRules) (cache : CredentialCache) (connection : Connection)
    (worker : Except String Unit) (replies : List CredentialAnswer) (n : Negotiation)
    (results : List NegotiationResult) : Prop where
  connection_eq : n.connection = connection
  answer_eq : n.answer = replies.head?
  accords : Accords rules cache connection worker replies n.phase results

theorem tracks_begin (rules : NegotiationRules) (cache : CredentialCache) (connection : Connection)
    (worker : Except String Unit) :
    Tracks rules cache connection worker []
      (step rules cache { connection } (.start worker)).2 [] := by
  refine ⟨rfl, rfl, ?_⟩
  show Accords _ _ _ _ _ (started rules cache { connection } worker) []
  obtain ⟨hphase, hasks⟩ | ⟨result, hphase, hsettles⟩ := started_cases rules cache { connection } worker
  · rw [hphase]
    exact .starting hasks
  · rw [hphase]
    exact .settled hsettles

theorem phase_step_ne_fresh (h : n.phase ≠ .fresh) (now : CredentialCache)
    (action : NegotiationAction) : (n.step rules now action).2.phase ≠ .fresh := by
  obtain ⟨connection, phase, answer⟩ := n
  cases phase with
  | fresh => exact absurd rfl h
  | waiting => cases action <;> cases answer <;> simp [step]
  | starting | answered | settled | reported => cases action <;> simp [step]

theorem Tracks.reply {now : CredentialCache}
    (h : Tracks rules cache connection worker replies n results) (answer : CredentialAnswer) :
    Tracks rules cache connection worker (replies ++ [answer]) (n.step rules now (.reply answer)).2
      results := by
  refine ⟨h.connection_eq, ?_, h.accords.append [answer]⟩
  rw [List.head?_append, ← h.answer_eq]
  rfl

/-- Only one action concerns the phase of a negotiation. -/
theorem Tracks.proceed {now : CredentialCache} {action : NegotiationAction}
    (h : Tracks rules cache connection worker replies n results) (hreply : replyOf action = []) :
    Tracks rules cache connection worker replies (n.step rules now action).2
      (results ++ n.reportOf action) := by
  obtain ⟨connection, phase, answer⟩ := n
  obtain ⟨rfl, rfl, haccords⟩ := h
  cases haccords with
  | starting hasks =>
    cases action with
    | reply => cases hreply
    | ask => exact ⟨rfl, rfl, .waiting hasks⟩
    | start | take | settle | report => exact ⟨rfl, rfl, .starting hasks⟩
  | waiting hasks =>
    cases action with
    | reply => cases hreply
    | take =>
      cases hanswer : replies.head? with
      | none => exact ⟨rfl, hanswer.symm, .waiting hasks⟩
      | some answer => exact ⟨rfl, hanswer.symm, .answered hasks hanswer⟩
    | start | ask | settle | report => exact ⟨rfl, rfl, .waiting hasks⟩
  | answered hasks hanswer =>
    cases action with
    | reply => cases hreply
    | settle => exact ⟨rfl, rfl, .settled (settles_resultOf hasks hanswer)⟩
    | start | ask | take | report => exact ⟨rfl, rfl, .answered hasks hanswer⟩
  | settled hsettles =>
    cases action with
    | reply => cases hreply
    | report => exact ⟨rfl, rfl, .reported hsettles⟩
    | start | ask | take | settle => exact ⟨rfl, rfl, .settled hsettles⟩
  | reported hsettles =>
    cases action with
    | reply => cases hreply
    | start | ask | take | settle | report => exact ⟨rfl, rfl, .reported hsettles⟩

/-- What is known may change while a negotiation goes on. -/
theorem Tracks.step {now : CredentialCache}
    (h : Tracks rules cache connection worker replies n results) (action : NegotiationAction) :
    Tracks rules cache connection worker (replies ++ replyOf action) (n.step rules now action).2
      (results ++ n.reportOf action) := by
  cases action with
  | reply answer => simpa [replyOf, reportOf] using h.reply answer
  | start | ask | take | settle | report => simpa [replyOf] using h.proceed rfl

/-- There is at most one result, and it is the one that the negotiation comes to. -/
theorem Tracks.sound (h : Tracks rules cache connection worker replies n results) :
    results.length ≤ 1 ∧
      ∀ result ∈ results, Settles rules cache connection worker replies result := by
  obtain ⟨connection, phase, answer⟩ := n
  obtain ⟨-, -, haccords⟩ := h
  cases haccords with
  | starting | waiting | answered | settled => simp
  | reported hsettles => simpa using hsettles

/-! ## The worker -/

/-- How far a negotiation has come; `4` means that it has reported. -/
def rank (n : Negotiation) : Nat :=
  match n.phase with
  | .fresh | .starting => 0
  | .waiting => 1
  | .answered _ => 2
  | .settled _ => 3
  | .reported _ => 4

/-- What a worker does, in order. -/
def turns : List NegotiationAction := [.ask, .take, .settle, .report]

/-- Nothing is left to do for the worker of a negotiation. -/
def IsIdle (rules : NegotiationRules) (now : CredentialCache) (n : Negotiation) : Prop :=
  ∀ turn ∈ turns, (n.step rules now turn).2 = n

theorem rank_le_four (n : Negotiation) : n.rank ≤ 4 := by
  unfold rank
  split <;> omega

theorem rank_le_step (n : Negotiation) (now : CredentialCache) (action : NegotiationAction) :
    n.rank ≤ (n.step rules now action).2.rank := by
  obtain ⟨connection, phase, answer⟩ := n
  cases phase with
  | fresh => exact Nat.zero_le _
  | starting => cases action <;> simp [rank, step]
  | waiting => cases action <;> cases answer <;> simp [rank, step]
  | answered | settled | reported => cases action <;> simp [rank, step]

/-- A worker is idle when it has reported or has nothing to report; otherwise one of its turns brings the
negotiation on. -/
theorem Tracks.idle_or (now : CredentialCache)
    (h : Tracks rules cache connection worker replies n results) :
    (n.IsIdle rules now ∧
      (results.length = 1 ↔ (AsksFor rules cache connection worker → replies ≠ []))) ∨
    ¬ n.IsIdle rules now ∧ ∃ turn ∈ turns, n.rank < (n.step rules now turn).2.rank := by
  -- a turn that brings a negotiation on changes it
  have hbusy : ∀ turn, turn ∈ turns → n.rank < (n.step rules now turn).2.rank →
      ¬ n.IsIdle rules now ∧ ∃ turn ∈ turns, n.rank < (n.step rules now turn).2.rank :=
    fun _ hturn hlt => ⟨fun hidle => absurd hlt (by rw [hidle _ hturn]; exact Nat.lt_irrefl _),
      _, hturn, hlt⟩
  obtain ⟨connection, phase, answer⟩ := n
  obtain ⟨rfl, rfl, haccords⟩ := h
  cases haccords with
  | starting => exact .inr (hbusy .ask (by simp [turns]) Nat.zero_lt_one)
  | waiting hasks =>
    cases replies with
    | nil => exact .inl ⟨by simp [IsIdle, turns, Negotiation.step], by simp [hasks]⟩
    | cons first later => exact .inr (hbusy .take (by simp [turns]) (Nat.lt_succ_self 1))
  | answered => exact .inr (hbusy .settle (by simp [turns]) (Nat.lt_succ_self 2))
  | settled => exact .inr (hbusy .report (by simp [turns]) (Nat.lt_succ_self 3))
  | reported hsettles =>
    exact .inl ⟨by simp [IsIdle, turns, Negotiation.step], fun _ hasks => hsettles.ne_nil hasks,
      fun _ => rfl⟩

end Negotiation

namespace Negotiator

open Negotiation

variable {negotiator : Negotiator} {number : Nat} {results : List NegotiationResult}

/-! ## Among others -/

/-- The results that have been reported of a negotiation. -/
def resultsOf (negotiator : Negotiator) (number : Nat) : List NegotiationResult :=
  (negotiator.reports.filter (·.1 = number)).map (·.2)

/-- The answers to a negotiation that an action gives. -/
def repliesIn (number : Nat) : Action → List CredentialAnswer
  | .proceed k action => if k = number then replyOf action else []
  | .request _ | .forget => []

/-- The answers to a negotiation in a run. -/
def repliesTo (number : Nat) (actions : List Action) : List CredentialAnswer :=
  actions.flatMap (repliesIn number)

theorem run_append (negotiator : Negotiator) (front back : List Action) :
    negotiator.run (front ++ back) = (negotiator.run front).run back :=
  List.foldl_append ..

theorem rules_step (negotiator : Negotiator) (action : Action) :
    (negotiator.step action).rules = negotiator.rules := by
  cases action with
  | request | forget => rfl
  | proceed number action =>
    rw [step]
    split <;> rfl

theorem rules_run (negotiator : Negotiator) (actions : List Action) :
    (negotiator.run actions).rules = negotiator.rules := by
  induction actions generalizing negotiator with
  | nil => rfl
  | cons action actions ih => exact (ih _).trans (rules_step negotiator action)

theorem step_proceed {n : Negotiation} (h : negotiator.negotiations[number]? = some n)
    (action : NegotiationAction) :
    (negotiator.step (.proceed number action)).negotiations =
        negotiator.negotiations.set number (n.step negotiator.rules negotiator.cache action).2 ∧
      (negotiator.step (.proceed number action)).reports =
        negotiator.reports ++ (n.reportOf action).map fun result => (number, result) := by
  simp only [step, h, true_and]
  cases action <;> simp [reportsAfter, reportOf]
  cases n.result? <;> rfl

/-- An action of a negotiation. -/
theorem step_own {n : Negotiation} (h : negotiator.negotiations[number]? = some n)
    (own : NegotiationAction) :
    let after := negotiator.step (.proceed number own)
    after.negotiations[number]? = some (n.step negotiator.rules negotiator.cache own).2 ∧
      after.resultsOf number = negotiator.resultsOf number ++ n.reportOf own := by
  obtain ⟨hnegotiations, hreports⟩ := step_proceed h own
  refine ⟨?_, ?_⟩
  · rw [hnegotiations, List.getElem?_set_self (List.getElem?_eq_some_iff.mp h).1]
  · simp [resultsOf, hreports, List.filter_append, List.filter_map, Function.comp_def]

/-- Any other action leaves the negotiation alone. -/
theorem step_other {n : Negotiation} (h : negotiator.negotiations[number]? = some n) {action : Action}
    (hother : ∀ own, action ≠ .proceed number own) :
    repliesIn number action = [] ∧ (negotiator.step action).negotiations[number]? = some n ∧
      (negotiator.step action).resultsOf number = negotiator.resultsOf number := by
  cases action with
  | forget => exact ⟨rfl, h, rfl⟩
  | request connection =>
    exact ⟨rfl, (List.getElem?_append_left (List.getElem?_eq_some_iff.mp h).1).trans h, rfl⟩
  | proceed k own =>
    have hk : k ≠ number := fun hk => hother own (by rw [hk])
    refine ⟨if_neg hk, ?_⟩
    cases hother : negotiator.negotiations[k]? with
    | none => simp [step, hother, h]
    | some other =>
      obtain ⟨hnegotiations, hreports⟩ := step_proceed hother own
      refine ⟨?_, ?_⟩
      · rw [hnegotiations, List.getElem?_set_ne hk, h]
      · simp [resultsOf, hreports, List.filter_append, List.filter_map, Function.comp_def, hk]

/-- A negotiation among others. -/
def Follows (cache : CredentialCache) (connection : Connection) (worker : Except String Unit)
    (number : Nat) (replies : List CredentialAnswer) (negotiator : Negotiator) : Prop :=
  ∃ n, negotiator.negotiations[number]? = some n ∧
    Tracks negotiator.rules cache connection worker replies n (negotiator.resultsOf number)

theorem Follows.step (h : Follows cache connection worker number replies negotiator)
    (action : Action) : Follows cache connection worker number
      (replies ++ repliesIn number action) (negotiator.step action) := by
  obtain ⟨n, hget, htracks⟩ := h
  by_cases hown : ∃ own, action = .proceed number own
  · obtain ⟨own, rfl⟩ := hown
    obtain ⟨hafter, hresults⟩ := step_own hget own
    refine ⟨_, hafter, ?_⟩
    rw [hresults, rules_step, repliesIn, if_pos rfl]
    exact htracks.step own
  · obtain ⟨hnone, hafter, hresults⟩ := step_other hget fun own h => hown ⟨own, h⟩
    refine ⟨n, hafter, ?_⟩
    rw [hresults, hnone, rules_step, List.append_nil]
    exact htracks

theorem Follows.run (h : Follows cache connection worker number replies negotiator)
    (actions : List Action) : Follows cache connection worker number
      (replies ++ repliesTo number actions) (negotiator.run actions) := by
  induction actions generalizing replies negotiator with
  | nil => rwa [repliesTo, List.flatMap_nil, List.append_nil]
  | cons action actions ih =>
    rw [repliesTo, List.flatMap_cons, ← List.append_assoc]
    exact ih (h.step action)

/-! ## From the beginning -/

/-- What has been reported is of negotiations that have begun. -/
def ReportsBegun (negotiator : Negotiator) : Prop :=
  ∀ entry ∈ negotiator.reports, ∃ n, negotiator.negotiations[entry.1]? = some n ∧ n.phase ≠ .fresh

theorem ReportsBegun.step (h : ReportsBegun negotiator) (action : Action) :
    ReportsBegun (negotiator.step action) := by
  cases action with
  | forget => exact h
  | request connection =>
    intro entry hentry
    obtain ⟨n, hget, hphase⟩ := h entry hentry
    exact ⟨n, (List.getElem?_append_left (List.getElem?_eq_some_iff.mp hget).1).trans hget, hphase⟩
  | proceed number own =>
    cases hget : negotiator.negotiations[number]? with
    | none => simpa [Negotiator.step, hget] using h
    | some n =>
      obtain ⟨hnegotiations, hreports⟩ := step_proceed hget own
      intro entry hentry
      have hself := (step_own hget own).1
      rw [hreports, List.mem_append, List.mem_map] at hentry
      obtain hold | ⟨result, hresult, rfl⟩ := hentry
      · obtain ⟨other, hother, hphase⟩ := h entry hold
        by_cases hk : number = entry.1
        · subst hk
          cases hget.symm.trans hother
          exact ⟨_, hself, phase_step_ne_fresh hphase _ own⟩
        · exact ⟨other, by rw [hnegotiations, List.getElem?_set_ne hk, hother], hphase⟩
      · refine ⟨_, hself, phase_step_ne_fresh (fun hfresh => ?_) _ own⟩
        cases own <;> simp [reportOf, result?, hfresh] at hresult

theorem reportsBegun_run (rules : NegotiationRules) (actions : List Action) :
    ReportsBegun (run { rules } actions) := by
  suffices h : ∀ negotiator, ReportsBegun negotiator → ReportsBegun (run negotiator actions) from
    h _ fun entry hentry => absurd hentry List.not_mem_nil
  induction actions with
  | nil => exact fun negotiator h => h
  | cons action actions ih => exact fun negotiator h => ih _ (h.step action)

theorem resultsOf_fresh (h : ReportsBegun negotiator)
    (hfresh : negotiator.negotiations[number]? = some { connection }) :
    negotiator.resultsOf number = [] := by
  refine List.map_eq_nil_iff.mpr (List.filter_eq_nil_iff.mpr fun entry hentry hnumber => ?_)
  obtain ⟨n, hget, hphase⟩ := h entry hentry
  rw [of_decide_eq_true hnumber, hfresh] at hget
  cases hget
  exact hphase rfl

/-- **A negotiation reports at most one result, and it is the one that it comes to** by what is known when
it begins or by the first answer to it. A connection to be opened differs from the requested one at most
in its credentials. As long as its worker has something left to do, one of its turns brings it on, and
nothing takes it back, so that it is idle after four of them. Then there is a result unless somebody has
been asked and nobody has answered. -/
theorem settled_once (rules : NegotiationRules) (before after : List Action) (number : Nat)
    (connection : Connection) (worker : Except String Unit)
    (hfresh : (run { rules } before).negotiations[number]? = some { connection }) :
    let known := (run { rules } before).cache
    let ended := run { rules } (before ++ .proceed number (.start worker) :: after)
    let replies := repliesTo number after
    (ended.resultsOf number).length ≤ 1 ∧
    (∀ result ∈ ended.resultsOf number, Settles rules known connection worker replies result) ∧
    (∀ opened, .ok opened ∈ ended.resultsOf number → opened = connection ∨ ∃ credentials,
      opened = { connection with credentials := some credentials } ∧
        (known.lookup (credentialKey connection.uri) = some credentials ∨
          replies.head? = some (.provided credentials))) ∧
    ∃ n, ended.negotiations[number]? = some n ∧ n.rank ≤ 4 ∧
      (∀ now action, n.rank ≤ (n.step rules now action).2.rank) ∧
      (¬ n.IsIdle rules ended.cache →
        ∃ turn ∈ turns, n.rank < (n.step rules ended.cache turn).2.rank) ∧
      (n.IsIdle rules ended.cache → ((ended.resultsOf number).length = 1 ↔
        (AsksFor rules known connection worker → replies ≠ []))) := by
  intro known ended replies
  have hbegun : Follows known connection worker number []
      ((run { rules } before).step (.proceed number (.start worker))) := by
    obtain ⟨hafter, hresults⟩ := step_own hfresh (.start worker)
    refine ⟨_, hafter, ?_⟩
    rw [hresults, resultsOf_fresh (reportsBegun_run rules before) hfresh, rules_step, rules_run]
    exact tracks_begin rules known connection worker
  have hended : ended = ((run { rules } before).step (.proceed number (.start worker))).run after :=
    run_append _ before _
  obtain ⟨n, hget, htracks⟩ := hbegun.run after
  rw [← hended] at hget htracks
  rw [rules_run] at htracks
  obtain ⟨hlength, hsettles⟩ := htracks.sound
  refine ⟨hlength, hsettles, fun opened hopened => (hsettles _ hopened).connection_eq, n, hget,
    n.rank_le_four, n.rank_le_step, fun hbusy => ?_, fun hidle => ?_⟩
  · obtain ⟨hidle, -⟩ | ⟨-, hturn⟩ := htracks.idle_or ended.cache
    · exact absurd hidle hbusy
    · exact hturn
  · obtain ⟨-, hresults⟩ | ⟨hbusy, -⟩ := htracks.idle_or ended.cache
    · exact hresults
    · exact absurd hidle hbusy

/-- A place whose credentials are asked for. -/
def lockedLog : Connection := { uri := "sftp://host/log", promptForUser := true }

/-- A negotiation about it that is cancelled before its worker asks. Credentials are provided later. -/
def cancelledFirst : List Action :=
  [.reply .cancelled, .ask, .reply (.provided ⟨"ops", "s3cret"⟩), .take, .settle, .report].map (.proceed 0)

/-- It reports once, that it was cancelled. -/
theorem settled_once_cancelledFirst :
    let rules : NegotiationRules := { requiresCredentials := fun _ => true, hasProvider := true }
    let ended := run { rules } ([.request lockedLog] ++ .proceed 0 (.start (.ok ())) :: cancelledFirst)
    (run { rules } [.request lockedLog]).negotiations[0]? = some { connection := lockedLog } ∧
      ended.resultsOf 0 = [.error (.cancelled "sftp://host/log")] := by
  intro rules ended
  obtain ⟨-, hsettles, -, n, hget, hfour, -, hturn, hone⟩ :=
    settled_once rules [.request lockedLog] cancelledFirst 0 lockedLog (.ok ()) rfl
  have hrank : n.rank = 4 := by
    have h : (ended.negotiations[0]?).map rank = some 4 := by decide +kernel
    exact Option.some_inj.mp (by rw [← h, hget, Option.map_some])
  have hidle : n.IsIdle rules ended.cache := by
    by_contra hbusy
    obtain ⟨turn, -, hlt⟩ := hturn hbusy
    exact absurd hlt (Nat.not_lt.mpr (hrank ▸ rank_le_four _))
  have hanswered : repliesTo 0 cancelledFirst = [.cancelled, .provided ⟨"ops", "s3cret"⟩] := rfl
  obtain ⟨result, hresult⟩ := List.length_eq_one_iff.mp ((hone hidle).mpr fun _ => by simp [hanswered])
  have hsettled := hsettles result (by rw [hresult]; exact List.mem_singleton_self result)
  rw [hanswered] at hsettled
  refine ⟨rfl, hresult.trans ?_⟩
  cases hsettled with
  | unneeded h => exact absurd h (by decide +kernel)
  | known _ h => cases h
  | nobody _ _ h => cases h
  | unavailable _ _ _ h => cases h
  | provided _ h | declined _ h => cases h
  | cancelled => decide +kernel

end Negotiator

end LogIntake
