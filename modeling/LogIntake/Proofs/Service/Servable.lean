import LogIntake.Proofs.Text.Lines
import LogIntake.Service.Receiver

/-!
# Services that cannot be received

* `Service.Undecodable`: a service says that it does not send lines of text.
* `Service.Unplaced`: neither a file nor a socket has its lines.
* `Service.Unservable`: why there is no receiver for a service; `Service.receiver_eq_error_iff`: these are
  all the reasons.
* **`Service.receiver_eq_ok`**: what a receiver is told.
-/

namespace LogIntake

namespace Service

variable {service : Service} {e : ConnectError} {plan : ReceiverPlan}

/-! ## Why there is no receiver -/

/-- A service says that it sends something else than lines of text: by their media type, or else by what
writes them. -/
inductive Undecodable (service : Service) : String → Prop
  | media {media : String} (h : service.property? mediaTypeProperty = some media)
      (hother : ¬ plainText <+: lowered media) : Undecodable service media
  | decoder {name : String}
      (hmedia : ∀ media, service.property? mediaTypeProperty = some media → plainText <+: lowered media)
      (h : service.property? decoderProperty = some name)
      (hmarks : ∀ mark ∈ lineMarks, ¬ mark <:+: lowered name) : Undecodable service name

/-- The lines of a service without a file come from no socket: it sends them to a group that it does not
name, or its type is not known. -/
inductive Unplaced (service : Service) : String → Prop
  | unnamed (htype : service.key.type = multicastType) (h : service.property? groupProperty = none) :
      Unplaced service (service.key.name ++ " has no " ++ groupProperty)
  | noAddress {text : String} (htype : service.key.type = multicastType)
      (h : service.property? groupProperty = some text) (hparse : IpAddress.parse? text = none) :
      Unplaced service "multicast address: invalid IP address syntax"
  | unknown (h : service.key.type ∉ knownTypes) :
      Unplaced service ("unknown service type '" ++ service.key.type ++ "' and no " ++ fileProperty)

/-- Why there is no receiver for a service. A file goes before the type of the service. -/
inductive Unservable (service : Service) : ConnectError → Prop
  | undecodable {name : String} (h : service.Undecodable name) :
      Unservable service (.unsupportedDecoder name)
  | unplaced {reason : String} (hdecodable : ∀ name, ¬ service.Undecodable name)
      (hfile : service.property? fileProperty = none) (h : service.Unplaced reason) :
      Unservable service (.invalidService reason)

/-! ## The checks -/

/-- The media type is looked at first. -/
theorem checkDecoder_of_media {media : String} (h : service.property? mediaTypeProperty = some media)
    (hother : ¬ plainText <+: lowered media) :
    service.checkDecoder = .error (.unsupportedDecoder media) := by
  have hbad : plainText.isPrefixOf (lowered media) = false :=
    Bool.eq_false_iff.mpr (mt List.isPrefixOf_iff_prefix.mp hother)
  rw [checkDecoder, h]
  simp only [hbad, Bool.not_false, if_true]
  rfl

/-- Lines of text are refused only for what writes them. -/
theorem checkDecoder_of_plain
    (h : ∀ media, service.property? mediaTypeProperty = some media → plainText <+: lowered media) :
    service.checkDecoder =
      match service.property? decoderProperty with
      | none => .ok ()
      | some name =>
        if lineMarks.any (Text.hasInfix · (lowered name)) then .ok ()
        else .error (.unsupportedDecoder name) := by
  have hplain : ∀ media, service.property? mediaTypeProperty = some media →
      plainText.isPrefixOf (lowered media) = true :=
    fun media hmedia => List.isPrefixOf_iff_prefix.mpr (h media hmedia)
  cases hdecoder : service.property? decoderProperty with
  | none =>
    cases hmedia : service.property? mediaTypeProperty with
    | none =>
      rewrite [checkDecoder, hmedia, hdecoder]
      rfl
    | some media =>
      rewrite [checkDecoder, hmedia, hdecoder]
      dsimp only
      rewrite [hplain media hmedia]
      rfl
  | some name =>
    cases hmedia : service.property? mediaTypeProperty with
    | none =>
      rewrite [checkDecoder, hmedia, hdecoder]
      dsimp only
      cases lineMarks.any (Text.hasInfix · (lowered name)) <;> rfl
    | some media =>
      rewrite [checkDecoder, hmedia, hdecoder]
      dsimp only
      rewrite [hplain media hmedia]
      cases lineMarks.any (Text.hasInfix · (lowered name)) <;> rfl

/-- **A service is refused for what it says of its lines.** -/
theorem checkDecoder_eq_error_iff :
    service.checkDecoder = .error e ↔ ∃ name, service.Undecodable name ∧ e = .unsupportedDecoder name := by
  by_cases hplain : ∀ media, service.property? mediaTypeProperty = some media → plainText <+: lowered media
  · rw [checkDecoder_of_plain hplain]
    constructor
    · intro h
      split at h
      · cases h
      next name hname =>
      split at h
      · cases h
      next hmarks =>
      cases h
      refine ⟨name, .decoder hplain hname fun mark hmark hinfix => hmarks ?_, rfl⟩
      exact List.any_eq_true.mpr ⟨mark, hmark, Text.hasInfix_iff.mpr hinfix⟩
    · rintro ⟨name, hundecodable, rfl⟩
      cases hundecodable with
      | media h hother => exact absurd (hplain _ h) hother
      | decoder _ hname hmarks =>
        rw [hname]
        refine if_neg fun h => ?_
        obtain ⟨mark, hmark, hinfix⟩ := List.any_eq_true.mp h
        exact hmarks mark hmark (Text.hasInfix_iff.mp hinfix)
  · push Not at hplain
    obtain ⟨media, hmedia, hother⟩ := hplain
    rw [checkDecoder_of_media hmedia hother]
    constructor
    · rintro ⟨⟩
      exact ⟨media, .media hmedia hother, rfl⟩
    · rintro ⟨name, hundecodable, rfl⟩
      cases hundecodable with
      | media h => rw [Option.some_inj.mp (hmedia.symm.trans h)]
      | decoder hplain => exact absurd (hplain media hmedia) hother

/-- **A service without a file is refused for its type or its group.** -/
theorem socketKind_eq_error_iff :
    service.socketKind = .error e ↔ ∃ reason, service.Unplaced reason ∧ e = .invalidService reason := by
  constructor
  · intro h
    unfold socketKind at h
    dsimp only at h
    split at h
    · next htype =>
      split at h
      · next hgroup =>
        cases h
        exact ⟨_, .unnamed htype hgroup, rfl⟩
      · next text hgroup =>
        split at h
        · next hparse =>
          cases h
          exact ⟨_, .noAddress htype hgroup hparse, rfl⟩
        · cases h
    repeat' split at h
    all_goals cases h
    refine ⟨_, .unknown ?_, rfl⟩
    simp_all [knownTypes]
  · rintro ⟨reason, hunplaced, rfl⟩
    cases hunplaced with
    | unnamed htype hgroup => simp [socketKind, htype, hgroup]
    | noAddress htype hgroup hparse => simp [socketKind, htype, hgroup, hparse]
    | unknown h =>
      simp only [knownTypes, List.mem_cons, List.not_mem_nil, or_false, not_or] at h
      simp [socketKind, h]

/-- The decoder is looked at first, and the type of a service only where it names no file. -/
theorem receiver_eq_error : service.receiver = .error e ↔ service.checkDecoder = .error e ∨
    service.checkDecoder = .ok () ∧ service.property? fileProperty = none ∧
      service.socketKind = .error e := by
  unfold receiver
  cases service.checkDecoder with
  | error other => simp [bind, Except.bind]
  | ok _ =>
    cases service.property? fileProperty with
    | some address => simp [bind, Except.bind, pure, Except.pure]
    | none => cases service.socketKind <;> simp [bind, Except.bind, pure, Except.pure]

/-- **There is no receiver for exactly these reasons.** -/
theorem receiver_eq_error_iff : service.receiver = .error e ↔ service.Unservable e := by
  rw [receiver_eq_error]
  constructor
  · rintro (hcheck | ⟨hcheck, hfile, hkind⟩)
    · obtain ⟨name, h, rfl⟩ := checkDecoder_eq_error_iff.mp hcheck
      exact .undecodable h
    · obtain ⟨reason, h, rfl⟩ := socketKind_eq_error_iff.mp hkind
      refine .unplaced (fun name hname => ?_) hfile h
      cases hcheck.symm.trans (checkDecoder_eq_error_iff.mpr ⟨name, hname, rfl⟩)
  · rintro (h | ⟨hdecodable, hfile, h⟩)
    · exact .inl (checkDecoder_eq_error_iff.mpr ⟨_, h, rfl⟩)
    · refine .inr ⟨?_, hfile, socketKind_eq_error_iff.mpr ⟨_, h, rfl⟩⟩
      cases hcheck : service.checkDecoder with
      | ok _ => rfl
      | error other =>
        obtain ⟨name, hname, -⟩ := checkDecoder_eq_error_iff.mp hcheck
        exact absurd hname (hdecodable name)

/-! ## What a receiver is told -/

theorem socketKind_ne_file : service.socketKind ≠ .ok .file := by
  intro h
  unfold socketKind at h
  dsimp only at h
  repeat' split at h
  all_goals cases h

/-- **A receiver is told the template and the timestamp pattern of its service**, and the address of its
file if it reads one. -/
theorem receiver_eq_ok (h : service.receiver = .ok plan) :
    plan.connection.logFormat = (service.property? templateProperty).getD "MESSAGE" ∧
      plan.connection.timestampFormat =
        (service.property? timestampProperty).getD "yyyy-MM-dd HH:mm:ss,SSS" ∧
      (plan.kind = .file → service.property? fileProperty = some plan.connection.uri) ∧
      (plan.kind ≠ .file → service.property? fileProperty = none) := by
  unfold receiver at h
  cases hcheck : service.checkDecoder with
  | error e =>
    rw [hcheck] at h
    cases h
  | ok _ =>
    rw [hcheck] at h
    cases hfile : service.property? fileProperty with
    | some address =>
      rw [hfile] at h
      cases h
      exact ⟨rfl, rfl, fun _ => rfl, fun hkind => absurd rfl hkind⟩
    | none =>
      rw [hfile] at h
      cases hkind : service.socketKind with
      | error e =>
        rw [hkind] at h
        cases h
      | ok kind =>
        rw [hkind] at h
        cases h
        refine ⟨rfl, rfl, fun hsame => ?_, fun _ => rfl⟩
        rw [show kind = .file from hsame] at hkind
        exact absurd hkind socketKind_ne_file

end Service
end LogIntake
