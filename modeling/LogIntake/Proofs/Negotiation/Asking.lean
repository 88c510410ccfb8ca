import LogIntake.File.System
import LogIntake.Negotiation.Basic
import LogIntake.Proofs.Uri.Reading

/-!
# Asking for credentials and opening

* `Uri.user_of_embedded`: the user of an address that holds a secret.
* `FileSystems.Misses`: an address is refused for want of credentials; `FileSystems.IsTurnedAway`: by its
  own file system, which has been asked to open it; `FileSystems.TellsSecretAlone`: the address holds a
  secret and no user.
* `FileSystems.openUri_eq`, `needs_iff_user`: what opening and asking go by; `FileSystem.lacks`,
  `needs_iff_lacks`: where they agree and where they do not.
* **`needs_iff_misses`**: somebody is asked exactly if an address is refused without its file system being
  asked, or tells a secret without a user.
-/

namespace LogIntake

variable {File : Type} {systems : FileSystems File} {system : FileSystem File} {uri : Uri}
  {credentials : Option Credentials}

/-! ## What an address tells -/

namespace Uri

variable {name text : String} {scheme rest : List Char} {c : Credentials}

/-- The user of a login with a secret is that of the credentials. -/
theorem user_of_userInfo {s : List Char} (h : (userInfo s).2 = some c) : (userInfo s).1 = c.user := by
  unfold userInfo at h ⊢
  split
  · next hsplit =>
    rw [hsplit] at h
    cases h
  · next hsplit =>
    rw [hsplit] at h
    cases h
    rfl

theorem user_of_ofAuthority? (h : ofAuthority? name rest = some uri) (hc : uri.embedded = some c) :
    uri.user = (some c.user).filter (· ≠ "") := by
  simp only [ofAuthority?, Option.bind_eq_bind, Option.bind_eq_some_iff,
    Option.ite_none_left_eq_some] at h
  obtain ⟨⟨host, port⟩, -, -, hread⟩ := h
  obtain rfl := Option.some_inj.mp hread
  obtain ⟨login, hlogin, hsecret⟩ := Option.bind_eq_some_iff.mp hc
  split at hlogin
  · cases hlogin
  next before after hsplit =>
  cases hlogin
  simp only [Option.map_some]
  rw [user_of_userInfo hsecret]

/-- **An address that holds a secret has the user beside it**, unless that is empty. -/
theorem user_of_embedded (h : parse text = .ok uri) (hc : uri.embedded = some c) :
    uri.user = (some c.user).filter (· ≠ "") := by
  cases hsplit : Text.splitAtText? schemeMark (Text.trim text.toList) with
  | none =>
    rw [parse, hsplit] at h
    split at h
    · cases h
    · cases h
      cases hc
  | some parts =>
    rw [parse_eq_ofParts hsplit, ofParts] at h
    split at h
    · cases h
    split at h
    · split at h
      · cases h
      · cases h
        cases hc
    cases hread : ofAuthority? (String.ofList (parts.1.map Text.asciiLower)) parts.2 with
    | none =>
      rw [hread] at h
      cases h
    | some read =>
      rw [hread] at h
      cases h
      exact user_of_ofAuthority? hread hc

/-- An address without a user holds no credentials, or a secret alone. -/
theorem user_eq_none_iff (h : parse text = .ok uri) :
    uri.user = none ↔
      uri.embedded = none ∧ uri.user = none ∨ ∃ secret, uri.embedded = some ⟨"", secret⟩ := by
  cases hembedded : uri.embedded with
  | none => simp
  | some c =>
    obtain ⟨user, secret⟩ := c
    simp [user_of_embedded h hembedded]

end Uri

/-! ## Refused for want of credentials -/

/-- There is nothing to open an address with: its scheme asks for credentials, and neither somebody nor the
address has told any, or a user. -/
def FileSystem.lacks (system : FileSystem File) (uri : Uri) (credentials : Option Credentials) : Bool :=
  system.requiresCredentials && (credentials.or uri.embedded).isNone && uri.user.isNone

namespace FileSystems

/-- An address is refused for want of credentials. -/
def Misses (systems : FileSystems File) (uri : Uri) (credentials : Option Credentials) : Prop :=
  ∃ shown, systems.openUri uri credentials = .error (.missingCredentials shown)

/-- The file system of an address, which has been asked to open it, refuses it for want of credentials. -/
def IsTurnedAway (systems : FileSystems File) (uri : Uri) (credentials : Option Credentials) : Prop :=
  ∃ system shown, systems.resolve uri = .ok system ∧ system.lacks uri credentials = false ∧
    system.openFile uri (credentials.or uri.embedded) = .error (.missingCredentials shown)

/-- The scheme of an address asks for credentials, and the address holds a secret without a user. -/
def TellsSecretAlone (systems : FileSystems File) (uri : Uri) : Prop :=
  ∃ system secret, systems.resolve uri = .ok system ∧ system.requiresCredentials = true ∧
    uri.embedded = some ⟨"", secret⟩

/-- Opening goes by the file system of the scheme, unless there is nothing to open the address with. -/
theorem openUri_eq (hsystem : systems.resolve uri = .ok system) :
    systems.openUri uri credentials =
      if system.lacks uri credentials then .error (.missingCredentials uri.redacted)
      else system.openFile uri (credentials.or uri.embedded) := by
  rw [openUri, hsystem]
  rfl

/-- A scheme without a file system is not refused for want of credentials. -/
theorem not_misses_of_resolve {e : OpenError} (h : systems.resolve uri = .error e) :
    ¬ systems.Misses uri credentials := by
  rintro ⟨shown, hshown⟩
  rw [openUri, h] at hshown
  unfold resolve at h
  split at h <;> cases h
  cases hshown

/-- **What is refused without its file system being asked lacks what it would be opened with.** -/
theorem misses_and_not_turnedAway_iff :
    systems.Misses uri credentials ∧ ¬ systems.IsTurnedAway uri credentials ↔
      ∃ system, systems.resolve uri = .ok system ∧ system.lacks uri credentials = true := by
  cases hsystem : systems.resolve uri with
  | error e => simp [not_misses_of_resolve hsystem]
  | ok system =>
    cases hlacks : system.lacks uri credentials with
    | true => simp [Misses, IsTurnedAway, openUri_eq hsystem, hsystem, hlacks]
    | false => simp [Misses, IsTurnedAway, openUri_eq hsystem, hsystem, hlacks]

theorem IsTurnedAway.misses (h : systems.IsTurnedAway uri credentials) :
    systems.Misses uri credentials := by
  obtain ⟨system, shown, hsystem, hlacks, hopen⟩ := h
  exact ⟨shown, by rw [openUri_eq hsystem, hlacks]; exact hopen⟩

theorem TellsSecretAlone.not_lacks (h : systems.TellsSecretAlone uri) :
    ¬ (systems.Misses uri credentials ∧ ¬ systems.IsTurnedAway uri credentials) := by
  obtain ⟨system, secret, hsystem, -, hembedded⟩ := h
  rw [misses_and_not_turnedAway_iff]
  rintro ⟨other, hother, hlacks⟩
  simp [FileSystem.lacks, hembedded] at hlacks

end FileSystems

/-! ## Asking -/

section Asking

variable {connection : Connection} {provided : Bool} {user host : Option String}
  {embedded : Option Credentials} {port : Option Nat} {path : String}

/-- The rules of negotiating for the addresses that some file systems open. -/
def FileSystems.rules (systems : FileSystems File) (hasProvider : Bool) : NegotiationRules where
  requiresCredentials := systems.requiresCredentials
  hasProvider

/-- Whether somebody is asked goes by the scheme of the address and its user. -/
theorem needs_iff_user (hprompt : connection.promptForUser = true)
    (hread : Uri.parse connection.uri = .ok uri) :
    (systems.rules provided).needs connection = true ↔
      ∃ system, systems.resolve uri = .ok system ∧ system.requiresCredentials = true ∧
        connection.credentials = none ∧ uri.user = none := by
  simp only [NegotiationRules.needs, FileSystems.rules, FileSystems.requiresCredentials, hprompt, hread]
  cases hsystem : systems.resolve uri with
  | error e => simp
  | ok system =>
    simp only [Except.ok.injEq, exists_eq_left', Bool.and_true, Bool.and_eq_true,
      Option.isNone_iff_eq_none]
    tauto

/-- An address that cannot be read is not asked for. -/
theorem read_of_needs (h : (systems.rules provided).needs connection = true) :
    ∃ uri, Uri.parse connection.uri = .ok uri := by
  cases hread : Uri.parse connection.uri with
  | error e => simp [NegotiationRules.needs, hread] at h
  | ok uri => exact ⟨uri, rfl⟩

/-- **Somebody is asked where there is nothing to open an address with, or a secret alone.** -/
theorem needs_iff_lacks (hprompt : connection.promptForUser = true)
    (hread : Uri.parse connection.uri = .ok uri) :
    (systems.rules provided).needs connection = true ↔
      (∃ system, systems.resolve uri = .ok system ∧
        system.lacks uri connection.credentials = true) ∨
      (connection.credentials = none ∧ systems.TellsSecretAlone uri) := by
  rw [needs_iff_user hprompt hread]
  constructor
  · rintro ⟨system, hsystem, hrequires, hcredentials, huser⟩
    obtain ⟨hembedded, -⟩ | ⟨secret, hembedded⟩ := (Uri.user_eq_none_iff hread).mp huser
    · exact .inl ⟨system, hsystem,
        by simp [FileSystem.lacks, hrequires, hcredentials, hembedded, huser]⟩
    · exact .inr ⟨hcredentials, system, secret, hsystem, hrequires, hembedded⟩
  · rintro (⟨system, hsystem, hlacks⟩ | ⟨hcredentials, system, secret, hsystem, hrequires, hembedded⟩)
    · simp only [FileSystem.lacks, Bool.and_eq_true, Option.isNone_iff_eq_none,
        Option.or_eq_none_iff] at hlacks
      obtain ⟨⟨hrequires, hcredentials, -⟩, huser⟩ := hlacks
      exact ⟨system, hsystem, hrequires, hcredentials, huser⟩
    · have huser : uri.user = none := (Uri.user_eq_none_iff hread).mpr (.inr ⟨secret, hembedded⟩)
      exact ⟨system, hsystem, hrequires, hcredentials, huser⟩

/-- **Asking agrees with opening, but for secrets without a user.** Of a connection that allows asking,
somebody is asked exactly if its address can be read and is refused for want of credentials before its
file system is asked to open it, or if it tells a secret without a user. So asking and opening agree
on an address unless it tells such a secret; or its file system, which has been asked to open it, misses
credentials itself. -/
theorem needs_iff_misses (systems : FileSystems File) (provided : Bool) (connection : Connection)
    (hprompt : connection.promptForUser = true) :
    ((systems.rules provided).needs connection = true ↔
      ∃ uri, Uri.parse connection.uri = .ok uri ∧
        ((systems.Misses uri connection.credentials ∧ ¬ systems.IsTurnedAway uri connection.credentials) ∨
          (connection.credentials = none ∧ systems.TellsSecretAlone uri))) ∧
    ∀ uri, Uri.parse connection.uri = .ok uri →
      (((systems.rules provided).needs connection = true ↔ systems.Misses uri connection.credentials) ↔
        ((connection.credentials = none ∧ systems.TellsSecretAlone uri) ↔
          systems.IsTurnedAway uri connection.credentials)) := by
  have hneeds : ∀ uri, Uri.parse connection.uri = .ok uri →
      ((systems.rules provided).needs connection = true ↔
        (systems.Misses uri connection.credentials ∧
          ¬ systems.IsTurnedAway uri connection.credentials) ∨
        (connection.credentials = none ∧ systems.TellsSecretAlone uri)) := by
    intro uri hread
    rw [needs_iff_lacks hprompt hread, FileSystems.misses_and_not_turnedAway_iff]
  constructor
  · constructor
    · intro h
      obtain ⟨uri, hread⟩ := read_of_needs h
      exact ⟨uri, hread, (hneeds uri hread).mp h⟩
    · rintro ⟨uri, hread, h⟩
      exact (hneeds uri hread).mpr h
  · intro uri hread
    have hmisses : systems.IsTurnedAway uri connection.credentials →
        systems.Misses uri connection.credentials := FileSystems.IsTurnedAway.misses
    have halone : systems.TellsSecretAlone uri →
        ¬ (systems.Misses uri connection.credentials ∧
          ¬ systems.IsTurnedAway uri connection.credentials) :=
      FileSystems.TellsSecretAlone.not_lacks
    rw [hneeds uri hread]
    tauto

/-- A scheme that asks for credentials, and whose file system accepts none. -/
def FileSystems.locked : FileSystems Unit where
  entries := [("locked", ⟨true, fun uri credentials =>
    .error (.denied uri.redacted ((credentials.map (·.secret)).getD ""))⟩)]

theorem FileSystems.not_isTurnedAway_locked :
    ¬ FileSystems.locked.IsTurnedAway { scheme := "locked", user, embedded, host, port, path }
      credentials := by
  rintro ⟨system, shown, hsystem, -, hopen⟩
  cases hsystem
  cases hopen

/-- Somebody is asked for an address with an empty login, which is refused for want of credentials. -/
theorem needs_iff_misses_emptyLogin :
    ∃ uri, Uri.parse "locked://@h/p" = .ok uri ∧
      (FileSystems.locked.rules true).needs { uri := "locked://@h/p", promptForUser := true } = true ∧
      FileSystems.locked.Misses uri none := by
  have hread : Uri.parse "locked://@h/p" = .ok { scheme := "locked", host := some "h", path := "/p" } := by
    decide
  have hneeds : (FileSystems.locked.rules true).needs
      { uri := "locked://@h/p", promptForUser := true } = true := by decide
  obtain ⟨-, hagree⟩ := needs_iff_misses FileSystems.locked true
    { uri := "locked://@h/p", promptForUser := true } rfl
  refine ⟨_, hread, hneeds, ((hagree _ hread).mpr ?_).mp hneeds⟩
  constructor
  · rintro ⟨-, -, secret, -, -, hsecret⟩
    cases hsecret
  · intro h
    exact absurd h FileSystems.not_isTurnedAway_locked

/-- **A secret without a user is opened with, and yet somebody is asked for it.** -/
theorem not_asked_in_want_secretAlone :
    ¬ ((FileSystems.locked.rules true).needs { uri := "locked://:pw@h/p", promptForUser := true } = true ↔
      ∃ uri, Uri.parse "locked://:pw@h/p" = .ok uri ∧ FileSystems.locked.Misses uri none) := by
  have hneeds : (FileSystems.locked.rules true).needs
      { uri := "locked://:pw@h/p", promptForUser := true } = true := by decide
  have hread : Uri.parse "locked://:pw@h/p" =
      .ok { scheme := "locked", embedded := some ⟨"", "pw"⟩, host := some "h", path := "/p" } := by decide
  intro h
  obtain ⟨uri, hparse, shown, hmisses⟩ := h.mp hneeds
  cases hread.symm.trans hparse
  cases hmisses

end Asking

end LogIntake
