import LogIntake.Proofs.Service.Servable
import LogIntake.Registry.Basic

/-!
# Requests

* `Decoder.Malformed`: why the lines of a source cannot be decoded.
* `Request.Faulty`: what is wrong with a request, the first fault alone.
* `Request.prepare_of_unread`, `Request.prepare_of_read`: how a request is prepared.
* **`Request.prepare_eq_ok`**, **`Request.prepare_eq_error_iff`**: what is set up for a request, unless
  something is wrong with it.
-/

namespace LogIntake

/-! ## Templates and timestamp patterns -/

/-- Why lines cannot be decoded: the timestamp pattern cannot be compiled, or else the template. -/
inductive Decoder.Malformed (template pattern : String) : FormatError → Prop
  | timestamp {e : PatternError} (h : TimestampParser.compile pattern = .error e) :
      Malformed template pattern (.timestamp e)
  | template {parser : TimestampParser} {e : TemplateError}
      (hpattern : TimestampParser.compile pattern = .ok parser)
      (h : Template.compile template (some parser.shape) = .error e) :
      Malformed template pattern (.template e)

namespace Decoder

variable {source template pattern : String} {keep : Bool} {e : FormatError}

theorem new_of_malformed (h : Malformed template pattern e) :
    Decoder.new source template pattern keep = .error e := by
  cases h with
  | timestamp h =>
    rewrite [Decoder.new, h]
    rfl
  | template hpattern h =>
    simp only [Decoder.new, hpattern, h, bind, Except.bind, Except.mapError]

theorem new_eq_error_iff :
    Decoder.new source template pattern keep = .error e ↔ Malformed template pattern e := by
  refine ⟨fun h => ?_, new_of_malformed⟩
  have unique : ∀ {fault}, Malformed template pattern fault → Malformed template pattern e := by
    intro fault hfault
    cases h.symm.trans (new_of_malformed hfault)
    exact hfault
  cases hpattern : TimestampParser.compile pattern with
  | error fault => exact unique (.timestamp hpattern)
  | ok parser =>
    cases htemplate : Template.compile template (some parser.shape) with
    | error fault => exact unique (.template hpattern htemplate)
    | ok compiled =>
      simp only [Decoder.new, hpattern, htemplate, bind, Except.bind, Except.mapError] at h
      cases h

end Decoder

/-! ## Faults -/

namespace Request

variable {request : Request} {plan : ReceiverPlan} {link : Link} {shown : String} {e : ConnectError}

/-- The address of the file that a request names. -/
def address? : Request → Option String
  | .found service => service.property? fileProperty
  | .manual _ connection => some connection.uri

/-- The template that a request asks for. -/
def template : Request → String
  | .found service => (service.property? templateProperty).getD "MESSAGE"
  | .manual _ connection => connection.logFormat

/-- The timestamp pattern that a request asks for. -/
def timestampPattern : Request → String
  | .found service => (service.property? timestampProperty).getD "yyyy-MM-dd HH:mm:ss,SSS"
  | .manual _ connection => connection.timestampFormat

/-- There is a receiver for the service of a request. -/
def IsServable (request : Request) : Prop :=
  ∀ service e, request = .found service → ¬ service.Unservable e

/-- The address of the file that a request names can be read. -/
def IsReadable (request : Request) : Prop :=
  ∀ address, request.address? = some address → ∃ uri, Uri.parse address = .ok uri

/-- What is wrong with a request. A fault counts only if none before it is there. -/
inductive Faulty (request : Request) : ConnectError → Prop
  | unservable {service : Service} {e : ConnectError} (hrequest : request = .found service)
      (h : service.Unservable e) : Faulty request e
  | address {address shown : String} (hservable : request.IsServable)
      (haddress : request.address? = some address) (h : Uri.parse address = .error shown) :
      Faulty request (.invalidService ("invalid URI '" ++ shown ++ "'"))
  | format {e : FormatError} (hservable : request.IsServable) (hreadable : request.IsReadable)
      (h : Decoder.Malformed request.template request.timestampPattern e) :
      Faulty request (.format e)

theorem plan_eq_error_iff : request.plan = .error e ↔
    ∃ service, request = .found service ∧ service.Unservable e := by
  cases request with
  | found service => simp [plan, Service.receiver_eq_error_iff]
  | manual name connection => simp [plan]

theorem isServable_iff : request.IsServable ↔ ∃ plan, request.plan = .ok plan := by
  constructor
  · intro h
    cases hplan : request.plan with
    | ok plan => exact ⟨plan, rfl⟩
    | error e =>
      obtain ⟨service, hrequest, hunservable⟩ := plan_eq_error_iff.mp hplan
      exact absurd hunservable (h service e hrequest)
  · rintro ⟨plan, hplan⟩ service e hrequest hunservable
    cases hplan.symm.trans (plan_eq_error_iff.mpr ⟨service, hrequest, hunservable⟩)

/-- **The receiver is told what the request asks for.** -/
theorem plan_eq_ok (h : request.plan = .ok plan) :
    plan.connection.logFormat = request.template ∧
      plan.connection.timestampFormat = request.timestampPattern ∧
      (plan.kind = .file → request.address? = some plan.connection.uri) ∧
      (plan.kind ≠ .file → request.address? = none) := by
  cases request with
  | found service => exact Service.receiver_eq_ok h
  | manual name connection =>
    cases h
    exact ⟨rfl, rfl, fun _ => rfl, fun hkind => absurd rfl hkind⟩

theorem isReadable_iff (h : request.plan = .ok plan) : request.IsReadable ↔
    (plan.kind = .file → ∃ uri, Uri.parse plan.connection.uri = .ok uri) := by
  obtain ⟨-, -, hfile, hsocket⟩ := plan_eq_ok h
  constructor
  · exact fun hread hkind => hread _ (hfile hkind)
  · intro hread address haddress
    by_cases hkind : plan.kind = .file
    · obtain rfl := Option.some_inj.mp ((hfile hkind).symm.trans haddress)
      exact hread hkind
    · cases (hsocket hkind).symm.trans haddress

/-! ### Preparing -/

/-- The address of a file must be one. -/
theorem prepare_of_unread (hplan : request.plan = .ok plan) (hfile : plan.kind = .file)
    (hread : Uri.parse plan.connection.uri = .error shown) :
    request.prepare = .error (.invalidService (OpenError.invalidUri shown).message) := by
  simp only [prepare, hplan, bind, Except.bind, if_pos hfile, Uri.read, hread, Except.mapError]

/-- The address of a socket is not looked at. -/
theorem prepare_of_read (hplan : request.plan = .ok plan)
    (hread : plan.kind = .file → ∃ uri, Uri.parse plan.connection.uri = .ok uri) :
    request.prepare =
      ((Decoder.new request.toService.key.name plan.connection.logFormat plan.connection.timestampFormat
        plan.connection.keepUnmatched).mapError .format).map fun decoder =>
          { service := request.toService
            plan
            decoder
            filter := TextFilter.ofExpression? plan.connection.filterExpression
            negotiation := { connection := plan.connection } } := by
  unfold prepare
  rw [hplan]
  simp only [bind, Except.bind]
  generalize (Decoder.new request.toService.key.name plan.connection.logFormat
    plan.connection.timestampFormat plan.connection.keepUnmatched).mapError ConnectError.format = decoder
  split
  · next hfile =>
    obtain ⟨uri, huri⟩ := hread hfile
    rw [Uri.read, huri]
    cases decoder <;> rfl
  · cases decoder <;> rfl

/-- **What is set up for a request**: its address can be read if a file has its lines, and the negotiation
is about the connection of its receiver. -/
theorem prepare_eq_ok (h : request.prepare = .ok link) :
    link.service = request.toService ∧ request.plan = .ok link.plan ∧
      link.negotiation = { connection := link.plan.connection } ∧
      (link.plan.kind = .file → ∃ uri, Uri.parse link.plan.connection.uri = .ok uri) := by
  cases hplan : request.plan with
  | error e =>
    rw [prepare, hplan] at h
    cases h
  | ok plan =>
    by_cases hread : plan.kind = .file → ∃ uri, Uri.parse plan.connection.uri = .ok uri
    · rw [prepare_of_read hplan hread] at h
      cases hdecoder : Decoder.new request.toService.key.name plan.connection.logFormat
          plan.connection.timestampFormat plan.connection.keepUnmatched with
      | error e =>
        rw [hdecoder] at h
        cases h
      | ok decoder =>
        rw [hdecoder] at h
        cases h
        exact ⟨rfl, rfl, rfl, hread⟩
    · push Not at hread
      obtain ⟨hfile, hunread⟩ := hread
      cases hparse : Uri.parse plan.connection.uri with
      | error shown => cases (prepare_of_unread hplan hfile hparse).symm.trans h
      | ok uri => exact absurd hparse (hunread uri)

/-- A request with a fault cannot be prepared. -/
theorem prepare_of_faulty (h : request.Faulty e) : request.prepare = .error e := by
  cases h with
  | unservable hrequest h =>
    rw [prepare, plan_eq_error_iff.mpr ⟨_, hrequest, h⟩]
    rfl
  | address hservable haddress hread =>
    obtain ⟨plan, hplan⟩ := isServable_iff.mp hservable
    obtain ⟨-, -, hfile, hsocket⟩ := plan_eq_ok hplan
    have hkind : plan.kind = .file := by
      by_contra hkind
      cases (hsocket hkind).symm.trans haddress
    obtain rfl := Option.some_inj.mp ((hfile hkind).symm.trans haddress)
    exact prepare_of_unread hplan hkind hread
  | format hservable hreadable h =>
    obtain ⟨plan, hplan⟩ := isServable_iff.mp hservable
    obtain ⟨htemplate, hpattern, -⟩ := plan_eq_ok hplan
    rw [prepare_of_read hplan ((isReadable_iff hplan).mp hreadable), htemplate, hpattern,
      Decoder.new_eq_error_iff.mpr h]
    rfl

/-- A request that cannot be prepared has a fault. -/
theorem exists_faulty (h : request.prepare = .error e) : ∃ fault, request.Faulty fault := by
  by_cases hservable : request.IsServable
  · obtain ⟨plan, hplan⟩ := isServable_iff.mp hservable
    obtain ⟨htemplate, hpattern, -⟩ := plan_eq_ok hplan
    by_cases hreadable : request.IsReadable
    · rw [prepare_of_read hplan ((isReadable_iff hplan).mp hreadable), htemplate, hpattern] at h
      cases hdecoder : Decoder.new request.toService.key.name request.template
          request.timestampPattern plan.connection.keepUnmatched with
      | error fault => exact ⟨_, .format hservable hreadable (Decoder.new_eq_error_iff.mp hdecoder)⟩
      | ok decoder =>
        rw [hdecoder] at h
        cases h
    · simp only [IsReadable, not_forall, not_exists] at hreadable
      obtain ⟨address, haddress, hunread⟩ := hreadable
      cases hread : Uri.parse address with
      | error shown => exact ⟨_, .address hservable haddress hread⟩
      | ok uri => exact absurd hread (hunread uri)
  · simp only [IsServable, not_forall, not_not] at hservable
    obtain ⟨service, fault, hrequest, hfault⟩ := hservable
    exact ⟨fault, .unservable hrequest hfault⟩

/-- **A request cannot be prepared exactly for its faults.** -/
theorem prepare_eq_error_iff : request.prepare = .error e ↔ request.Faulty e := by
  refine ⟨fun h => ?_, prepare_of_faulty⟩
  obtain ⟨fault, hfault⟩ := exists_faulty h
  cases h.symm.trans (prepare_of_faulty hfault)
  exact hfault

end Request

end LogIntake
