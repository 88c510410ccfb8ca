import LogIntake.Connection.Basic
import LogIntake.Uri.Basic

/-!
# Negotiating credentials

Before a source is opened whose address asks for credentials, somebody is asked for them. The first
answer counts.

* `CredentialAnswer`: what can be answered.
* `NegotiationError`: why a connection comes out of a negotiation without credentials.
* `NegotiationRules.needs`: whether somebody has to be asked.
* `Negotiation`: one negotiation, from the request to the report of its result.
* `Negotiation.step`: how a negotiation goes on, together with the credentials known so far.
-/

namespace LogIntake

/-- An answer to a request for credentials. -/
inductive CredentialAnswer where
  | provided (credentials : Credentials)
  /-- The one who was asked has none. -/
  | declined
  /-- The one who asked wants none any more. -/
  | cancelled
deriving DecidableEq, Repr

/-- Why a connection must not be opened. -/
inductive NegotiationError where
  | noProvider (uri : String)
  | declined (uri : String)
  | cancelled (uri : String)
  | unavailable (uri reason : String)
deriving DecidableEq, Repr

/-- The wording of a refusal. -/
def NegotiationError.message : NegotiationError → String
  | .noProvider uri => "no credential provider available for " ++ uri
  | .declined uri => "credentials declined for " ++ uri
  | .cancelled uri => "negotiation for " ++ uri ++ " was cancelled"
  | .unavailable uri reason => "cannot negotiate credentials for " ++ uri ++ ": " ++ reason

/-- The connection to open, or why it must not be opened. -/
abbrev NegotiationResult := Except NegotiationError Connection

/-- What every negotiation is told. -/
structure NegotiationRules where
  /-- Whether a text is an address whose scheme asks for credentials. -/
  requiresCredentials : String → Bool
  /-- There is somebody who can be asked. -/
  hasProvider : Bool

/-- Whether somebody has to be asked: the address asks for credentials, neither the connection nor the
address tells them, and asking is allowed. -/
def NegotiationRules.needs (rules : NegotiationRules) (connection : Connection) : Bool :=
  connection.credentials.isNone && connection.promptForUser &&
    rules.requiresCredentials connection.uri &&
    match Uri.parse connection.uri with
    | .ok uri => uri.user.isNone
    | .error _ => false

/-- What credentials are remembered under: the address without its secret. -/
def credentialKey (text : String) : String :=
  match Uri.parse text with
  | .ok uri => uri.redacted
  | .error _ => String.ofList (redact text.toList)

/-- The credentials that have been provided, the latest first. -/
abbrev CredentialCache := List (String × Credentials)

/-- Where a negotiation stands. -/
inductive NegotiationPhase where
  /-- It has not begun. -/
  | fresh
  /-- It has a worker, which is about to ask. -/
  | starting
  /-- It waits for an answer. -/
  | waiting
  /-- Its worker has taken an answer. -/
  | answered (answer : CredentialAnswer)
  /-- Its result is certain and has not been reported. -/
  | settled (result : NegotiationResult)
  /-- Its result has been reported. -/
  | reported (result : NegotiationResult)
deriving Repr

/-- A negotiation about a connection. -/
structure Negotiation where
  connection : Connection
  phase : NegotiationPhase := .fresh
  /-- The first answer there was, whether or not it has been taken. -/
  answer : Option CredentialAnswer := none
deriving Repr

/-- What can happen to a negotiation. -/
inductive NegotiationAction where
  /-- It begins. If it needs a worker, starting one can fail. -/
  | start (worker : Except String Unit)
  /-- The worker asks for credentials. -/
  | ask
  /-- Somebody answers. -/
  | reply (answer : CredentialAnswer)
  /-- The worker takes the answer, if there is one. -/
  | take
  /-- The worker turns the answer into the result and remembers credentials. -/
  | settle
  /-- The result is reported. -/
  | report
deriving Repr

namespace Negotiation

/-- What a negotiation is remembered under. -/
def key (n : Negotiation) : String := credentialKey n.connection.uri

/-- The connection with credentials. -/
def resultWith (n : Negotiation) (credentials : Credentials) : NegotiationResult :=
  .ok { n.connection with credentials := some credentials }

/-- How a negotiation begins: with a result if nobody has to be asked, the credentials are known or
nobody can be asked, and otherwise with a worker. -/
def started (rules : NegotiationRules) (cache : CredentialCache) (n : Negotiation)
    (worker : Except String Unit) : NegotiationPhase :=
  if !rules.needs n.connection then .settled (.ok n.connection)
  else match cache.lookup n.key with
    | some credentials => .settled (n.resultWith credentials)
    | none =>
      if !rules.hasProvider then .settled (.error (.noProvider n.key))
      else match worker with
        | .ok () => .starting
        | .error reason => .settled (.error (.unavailable n.key reason))

/-- The result that an answer gives. -/
def resultOf (n : Negotiation) : CredentialAnswer → NegotiationResult
  | .provided credentials => n.resultWith credentials
  | .declined => .error (.declined n.key)
  | .cancelled => .error (.cancelled n.key)

/-- The cache after an answer. -/
def remember (cache : CredentialCache) (n : Negotiation) : CredentialAnswer → CredentialCache
  | .provided credentials => (n.key, credentials) :: cache
  | .declined | .cancelled => cache

/-- How a negotiation goes on. What does not concern its phase changes nothing. -/
def step (rules : NegotiationRules) (cache : CredentialCache) (n : Negotiation) :
    NegotiationAction → CredentialCache × Negotiation
  | .start worker =>
    match n.phase with
    | .fresh => (cache, { n with phase := n.started rules cache worker })
    | _ => (cache, n)
  | .ask =>
    match n.phase with
    | .starting => (cache, { n with phase := .waiting })
    | _ => (cache, n)
  | .reply answer => (cache, { n with answer := n.answer.or (some answer) })
  | .take =>
    match n.phase, n.answer with
    | .waiting, some answer => (cache, { n with phase := .answered answer })
    | _, _ => (cache, n)
  | .settle =>
    match n.phase with
    | .answered answer => (n.remember cache answer, { n with phase := .settled (n.resultOf answer) })
    | _ => (cache, n)
  | .report =>
    match n.phase with
    | .settled result => (cache, { n with phase := .reported result })
    | _ => (cache, n)

/-- The result that is to be reported next. -/
def result? (n : Negotiation) : Option NegotiationResult :=
  match n.phase with
  | .settled result => some result
  | _ => none

end Negotiation

end LogIntake
