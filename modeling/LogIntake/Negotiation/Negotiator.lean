import LogIntake.Negotiation.Basic

/-!
# Many negotiations

* `Negotiator`: the negotiations so far, which share the credentials they come to know.
* `Negotiator.step`: a request, a step of one negotiation, or the loss of what is known.
* `Negotiator.negotiate`: a negotiation from its request to its report, with the answers to it given.
-/

namespace LogIntake

/-- The negotiations so far. A negotiation is known by its number. -/
structure Negotiator where
  rules : NegotiationRules
  cache : CredentialCache := []
  negotiations : List Negotiation := []
  /-- What has been asked: the number of the negotiation and the address. -/
  prompts : List (Nat × String) := []
  /-- The results that have been reported. -/
  reports : List (Nat × NegotiationResult) := []

namespace Negotiator

/-- What can happen among negotiations. -/
inductive Action where
  /-- Somebody requests a connection. -/
  | request (connection : Connection)
  /-- A negotiation goes on. -/
  | proceed (number : Nat) (action : NegotiationAction)
  /-- All that is known is forgotten. -/
  | forget
deriving Repr

/-- The prompts after an action on a negotiation. -/
def promptsAfter (n : Negotiation) (number : Nat) (prompts : List (Nat × String)) :
    NegotiationAction → List (Nat × String)
  | .ask =>
    match n.phase with
    | .starting => prompts ++ [(number, n.key)]
    | _ => prompts
  | _ => prompts

/-- The reports after an action on a negotiation. -/
def reportsAfter (n : Negotiation) (number : Nat) (reports : List (Nat × NegotiationResult)) :
    NegotiationAction → List (Nat × NegotiationResult)
  | .report => reports ++ (n.result?.map fun result => (number, result)).toList
  | _ => reports

/-- How negotiations go on. -/
def step (negotiator : Negotiator) : Action → Negotiator
  | .request connection =>
    { negotiator with negotiations := negotiator.negotiations ++ [{ connection }] }
  | .proceed number action =>
    match negotiator.negotiations[number]? with
    | none => negotiator
    | some n =>
      let (cache, after) := n.step negotiator.rules negotiator.cache action
      { negotiator with
        cache
        negotiations := negotiator.negotiations.set number after
        prompts := promptsAfter n number negotiator.prompts action
        reports := reportsAfter n number negotiator.reports action }
  | .forget => { negotiator with cache := [] }

/-- The negotiations after a sequence of actions. -/
def run (negotiator : Negotiator) (actions : List Action) : Negotiator :=
  actions.foldl step negotiator

/-- The number of the next negotiation. -/
def next (negotiator : Negotiator) : Nat := negotiator.negotiations.length

/-- The actions of a negotiation of a given number that begins, asks and receives answers. -/
def opening (number : Nat) (answers : List CredentialAnswer) : List Action :=
  let actions : List NegotiationAction := [.start (.ok ()), .ask] ++ answers.map .reply
  actions.map (.proceed number)

/-- The actions of a worker that takes an answer and reports. -/
def closing (number : Nat) : List Action :=
  let actions : List NegotiationAction := [.take, .settle, .report]
  actions.map (.proceed number)

/-- Requests a connection, gives the answers and lets the worker go on as far as it can. -/
def negotiate (negotiator : Negotiator) (connection : Connection) (answers : List CredentialAnswer) :
    Negotiator :=
  let number := negotiator.next
  negotiator.run ([.request connection] ++ opening number answers ++ closing number)

/-- Whether a negotiation has a worker that has not ended. -/
def isPending (negotiator : Negotiator) (number : Nat) : Bool :=
  match negotiator.negotiations[number]? with
  | none => false
  | some n =>
    match n.phase with
    | .starting | .waiting | .answered _ => true
    | .fresh | .settled _ | .reported _ => false

end Negotiator

end LogIntake
