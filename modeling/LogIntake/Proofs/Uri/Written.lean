import LogIntake.Proofs.Timestamp.Digits
import LogIntake.Proofs.Uri.Reading

/-!
# Written addresses are read back

* `IsWritable`: no part of an address holds what would end it.
* `IsLegible`: where an address is written, each part can be told from the next one. The host may hold
  colons then if a port follows.
* `port?_toDigits`, `hostPort?_placeText`, `userInfo_loginText`: each part is read from its written
  form.
* `IsLegible.ofAuthority?_eq`: and so is all that stands behind the mark; `IsLegible.parse_eq`: and the
  whole.
* **`parse_write`**: a written address is read back part by part, and shown as it was written without
  its secret.
-/

namespace LogIntake.Uri

open Text

/-- The parts of an address of a scheme of its own. No part holds what would end it, and no white space
stands at the ends of the whole. A secret is only written behind a user. -/
structure IsWritable (scheme : String) (user secret : Option String) (host : String)
    (port : Option Nat) (path : String) : Prop where
  scheme_ne : scheme ≠ ""
  scheme_chars : ∀ c ∈ scheme.toList, isSchemeChar c = true ∧ asciiLower c = c
  scheme_ne_file : scheme ≠ "file"
  user_ne : ∀ u ∈ user, u ≠ ""
  user_chars : ∀ u ∈ user, ':' ∉ u.toList ∧ '/' ∉ u.toList
  secret_chars : ∀ s ∈ secret, '/' ∉ s.toList
  host_ne : host ≠ ""
  host_chars : ∀ c ∈ host.toList, c ≠ '/' ∧ c ≠ '@' ∧ c ≠ ':' ∧ isBlank c = false
  port_lt : ∀ n ∈ port, n < 65536
  path_start : ∀ c ∈ path.toList.head?, c = '/'
  path_end : ∀ c ∈ path.toList.getLast?, isBlank c = false

variable {scheme host path name : String} {user secret : Option String} {port : Option Nat} {n : Nat}
  {c : Char} {info : Option (String × Option Credentials)}

/-! ## Scheme, user and port -/

theorem isBlank_of_isSchemeChar (h : isSchemeChar c = true) : isBlank c = false := by
  have hprintable : 33 ≤ c.toNat ∧ c.toNat ≤ 126 := by
    simp only [isSchemeChar, isAsciiLetter, isAsciiDigit, Bool.or_eq_true, Bool.and_eq_true,
      decide_eq_true_eq, beq_iff_eq, Char.le_def, UInt32.le_iff_toNat_le] at h
    rcases h with ((((⟨hlow, hhigh⟩ | ⟨hlow, hhigh⟩) | ⟨hlow, hhigh⟩) | rfl) | rfl) | rfl
    · exact ⟨le_trans (by decide) hlow, le_trans hhigh (by decide)⟩
    · exact ⟨le_trans (by decide) hlow, le_trans hhigh (by decide)⟩
    · exact ⟨le_trans (by decide) hlow, le_trans hhigh (by decide)⟩
    all_goals decide
  exact isBlank_of_printable hprintable.1 hprintable.2

/-- The characters of a user and a secret, in front of the `@`. -/
def loginText (user : String) (secret : Option String) : List Char :=
  user.toList ++ (secret.map fun s => ':' :: s.toList).getD []

/-- The characters of a host and a port, in front of the path. -/
def placeText (host : String) (port : Option Nat) : List Char :=
  host.toList ++ (port.map fun n => ':' :: Nat.toDigits 10 n).getD []

theorem userInfo_loginText {user : String} (h : ':' ∉ user.toList) :
    userInfo (loginText user secret) = (user, secret.map (⟨user, ·⟩)) := by
  cases secret with
  | none => simp [loginText, userInfo, splitFirst?_of_not_mem h]
  | some s => simp [loginText, userInfo, splitFirst?_append h]

theorem not_mem_loginText {user : String} (huser : '/' ∉ user.toList)
    (hsecret : ∀ s ∈ secret, '/' ∉ s.toList) : '/' ∉ loginText user secret := by
  intro hmem
  rcases List.mem_append.mp hmem with hmem | hmem
  · exact huser hmem
  · cases secret with
    | none => exact absurd hmem List.not_mem_nil
    | some s => exact hsecret s rfl ((List.mem_cons.mp hmem).resolve_left (by decide))

theorem isAsciiDigit_of_mem_toDigits (h : c ∈ Nat.toDigits 10 n) : isAsciiDigit c = true :=
  Timestamp.isAsciiDigit_of_isDigit (Nat.isDigit_of_mem_toDigits (by decide) (by decide) h)

/-- A number of 16 bits is read from its digits. -/
theorem port?_toDigits (h : n < 65536) : port? (Nat.toDigits 10 n) = some n := by
  have hall : (Nat.toDigits 10 n).all isAsciiDigit = true :=
    List.all_eq_true.mpr fun c => isAsciiDigit_of_mem_toDigits
  have hvalue : (Nat.toDigits 10 n).foldl (fun n c => n * 10 + digitValue c) 0 = n :=
    Timestamp.digitsValue_toDigits n
  obtain ⟨d, later, hd⟩ : ∃ d later, Nat.toDigits 10 n = d :: later :=
    List.exists_cons_of_ne_nil Nat.toDigits_ne_nil
  have hplus : d ≠ '+' := by
    rintro rfl
    exact absurd (isAsciiDigit_of_mem_toDigits (hd ▸ List.mem_cons_self)) (by decide)
  rw [hd] at hall hvalue ⊢
  simp [port?, hplus, hall, hvalue, h]

/-- The host and the port are read from their written form. Only a host without a port must be free of
colons. -/
theorem hostPort?_placeText (hhost : port = none → ':' ∉ host.toList) (hport : ∀ n ∈ port, n < 65536) :
    hostPort? (placeText host port) = some (host.toList, port) := by
  cases port with
  | none => simp [placeText, hostPort?, splitLast?_of_not_mem (hhost rfl)]
  | some n =>
    have hcolon : ':' ∉ Nat.toDigits 10 n :=
      fun hmem => absurd (isAsciiDigit_of_mem_toDigits hmem) (by decide)
    simp [placeText, hostPort?, splitLast?_append hcolon, port?_toDigits (hport n rfl)]

/-! ## The authority -/

/-- The parts of an address of a scheme of its own, each of which can be told from the next one where the
address is written. White space may stand anywhere but at the end of the whole, and colons in a host that a
port follows. -/
structure IsLegible (scheme : String) (user secret : Option String) (host : String)
    (port : Option Nat) (path : String) : Prop where
  scheme_ne : scheme ≠ ""
  scheme_chars : ∀ c ∈ scheme.toList, isSchemeChar c = true ∧ asciiLower c = c
  scheme_ne_file : scheme ≠ "file"
  user_ne : ∀ u ∈ user, u ≠ ""
  user_chars : ∀ u ∈ user, ':' ∉ u.toList ∧ '/' ∉ u.toList
  secret_chars : ∀ s ∈ secret, '/' ∉ s.toList
  host_ne : host ≠ ""
  host_chars : '/' ∉ host.toList ∧ '@' ∉ host.toList
  host_colon : port = none → ':' ∉ host.toList
  port_lt : ∀ n ∈ port, n < 65536
  path_start : ∀ c ∈ path.toList.head?, c = '/'
  solid_end : ∀ c ∈ (placeText host port ++ path.toList).getLast?, isBlank c = false

namespace IsLegible

variable (h : IsLegible scheme user secret host port path)

include h

/-- A place is free of what ends it and of what ends a user. -/
theorem place_chars : ∀ c ∈ placeText host port, c ≠ '/' ∧ c ≠ '@' := by
  intro c hc
  rcases List.mem_append.mp hc with hhost | hdigits
  · exact ⟨ne_of_mem_of_not_mem hhost h.host_chars.1, ne_of_mem_of_not_mem hhost h.host_chars.2⟩
  · cases port with
    | none => exact absurd hdigits List.not_mem_nil
    | some n =>
      rcases List.mem_cons.mp hdigits with rfl | hdigit
      · decide
      · have hdigit := isAsciiDigit_of_mem_toDigits hdigit
        constructor <;>
          · rintro rfl
            exact absurd hdigit (by decide)

/-- A place ends where the path begins. -/
theorem takeWhile_place :
    (placeText host port ++ path.toList).takeWhile (· != '/') = placeText host port := by
  have hplace : '/' ∉ placeText host port := fun hmem => (h.place_chars _ hmem).1 rfl
  have hpath : path.toList.takeWhile (· != '/') = [] := by
    cases hlist : path.toList with
    | nil => rfl
    | cons c later =>
      rw [h.path_start c (by rw [hlist]; rfl)]
      rfl
  rw [takeWhile_append_of_not_mem hplace, hpath, List.append_nil]

/-- A host, a port and a path are read from their written form. -/
theorem ofPlace?_eq :
    ofPlace? name info (placeText host port ++ path.toList) =
      some {
        scheme := name
        user := (info.map (·.1)).filter (· ≠ "")
        embedded := info.bind (·.2)
        host := some host
        port
        path := if path = "" then "/" else path } := by
  have hread := hostPort?_placeText h.host_colon h.port_lt
  simp [ofPlace?, h.takeWhile_place, hread, h.host_ne]

/-- What stands behind the mark is read from its written form. -/
theorem ofAuthority?_eq :
    ofAuthority? name
        ((user.map fun u => loginText u secret ++ ['@']).getD [] ++
          (placeText host port ++ path.toList)) =
      some {
        scheme := name
        user
        embedded := user.bind fun u => secret.map (⟨u, ·⟩)
        host := some host
        port
        path := if path = "" then "/" else path } := by
  have hat : '@' ∉ (placeText host port ++ path.toList).takeWhile (· != '/') := by
    rw [h.takeWhile_place]
    exact fun hmem => (h.place_chars _ hmem).2 rfl
  cases user with
  | none => exact (ofAuthority?_of_not_mem hat).trans h.ofPlace?_eq
  | some u =>
    have hlogin := not_mem_loginText (h.user_chars u rfl).2 h.secret_chars
    rw [Option.map_some, Option.getD_some, List.append_assoc, List.singleton_append,
      ofAuthority?_append hlogin hat, userInfo_loginText (h.user_chars u rfl).1, h.ofPlace?_eq]
    simp [h.user_ne u rfl]

/-- The scheme holds no mark, and nothing of it is set aside. -/
theorem not_mark_scheme : ¬ schemeMark <:+: scheme.toList := by
  intro hmark
  have hcolon : ':' ∈ scheme.toList := hmark.mem (by decide)
  exact absurd (h.scheme_chars _ hcolon).1 (by decide)

theorem trimStart_scheme : trimStart scheme.toList = scheme.toList := by
  have hsolid := trimStart_append_of_solid (t := []) (by simpa using h.scheme_ne)
    fun c hc => isBlank_of_isSchemeChar (h.scheme_chars c hc).1
  rwa [List.append_nil] at hsolid

theorem lower_scheme : String.ofList (scheme.toList.map asciiLower) = scheme := by
  rw [List.map_congr_left fun c hc => (h.scheme_chars c hc).2, List.map_id', String.ofList_toList]

theorem trimEnd_behind (login : List Char) :
    trimEnd (login ++ (placeText host port ++ path.toList)) =
      login ++ (placeText host port ++ path.toList) := by
  have hne : placeText host port ++ path.toList ≠ [] := by
    have hhost : host.toList ≠ [] := by simpa using h.host_ne
    exact List.append_ne_nil_of_left_ne_nil (List.append_ne_nil_of_left_ne_nil hhost _) _
  rw [trimEnd_append, trimEnd_eq_self h.solid_end, if_neg (by simpa using hne)]

end IsLegible

/-- What holds nothing that would end a part is legible. -/
theorem IsWritable.isLegible (h : IsWritable scheme user secret host port path) :
    IsLegible scheme user secret host port path where
  scheme_ne := h.scheme_ne
  scheme_chars := h.scheme_chars
  scheme_ne_file := h.scheme_ne_file
  user_ne := h.user_ne
  user_chars := h.user_chars
  secret_chars := h.secret_chars
  host_ne := h.host_ne
  host_chars := ⟨fun hc => (h.host_chars _ hc).1 rfl, fun hc => (h.host_chars _ hc).2.1 rfl⟩
  host_colon := fun _ hc => (h.host_chars _ hc).2.2.1 rfl
  port_lt := h.port_lt
  path_start := h.path_start
  solid_end := by
    have hplace : ∀ c ∈ placeText host port, isBlank c = false := by
      intro c hc
      rcases List.mem_append.mp hc with hhost | hdigits
      · exact (h.host_chars c hhost).2.2.2
      · cases port with
        | none => exact absurd hdigits List.not_mem_nil
        | some n =>
          rcases List.mem_cons.mp hdigits with rfl | hdigit
          · decide
          · exact isBlank_of_isSchemeChar (by simp [isSchemeChar, isAsciiDigit_of_mem_toDigits hdigit])
    intro c hc
    rw [List.getLast?_append, Option.mem_def, Option.or_eq_some_iff] at hc
    rcases hc with hc | ⟨-, hc⟩
    · exact h.path_end c hc
    · exact hplace c (List.mem_of_getLast? hc)

/-! ## The whole -/

theorem toList_write (scheme : String) (user secret : Option String) (host : String)
    (port : Option Nat) (path : String) :
    (write scheme user secret host port path).toList =
      scheme.toList ++ (schemeMark ++ ((user.map fun u => loginText u secret ++ ['@']).getD [] ++
        (placeText host port ++ path.toList))) := by
  cases user <;> cases secret <;> cases port <;>
    simp [write, loginText, placeText, schemeMark]

/-- An address is shown as it is written without a secret. -/
theorem redacted_eq_write {uri : Uri} (h : uri.host = some host) :
    uri.redacted = write uri.scheme uri.user none host uri.port uri.path := by
  rw [redacted, h, write]
  cases uri.user <;> simp [String.append_assoc]

/-- **What is legible is read back.** -/
theorem IsLegible.parse_eq (h : IsLegible scheme user secret host port path) :
    parse (write scheme user secret host port path) =
      .ok {
        scheme
        user
        embedded := user.bind fun u => secret.map (⟨u, ·⟩)
        host := some host
        port
        path := if path = "" then "/" else path } := by
  have hscheme : ¬ (scheme.toList.isEmpty || !scheme.toList.all isSchemeChar) = true := by
    have hall : scheme.toList.all isSchemeChar = true :=
      List.all_eq_true.mpr fun c hc => (h.scheme_chars c hc).1
    simp [hall, h.scheme_ne]
  rw [← String.ofList_toList (s := write scheme user secret host port path), toList_write,
    parse_append h.not_mark_scheme, h.trimStart_scheme, h.trimEnd_behind, ofParts, if_neg hscheme,
    h.lower_scheme, if_neg h.scheme_ne_file, h.ofAuthority?_eq, Option.elim_some]

/-- **A written address is read back part by part, and shown as it was written without its secret.** -/
theorem parse_write (h : IsWritable scheme user secret host port path) :
    parse (write scheme user secret host port path) =
        .ok {
          scheme
          user
          embedded := user.bind fun u => secret.map (⟨u, ·⟩)
          host := some host
          port
          path := if path = "" then "/" else path } ∧
      (parse (write scheme user secret host port path)).map redacted =
        .ok (write scheme user none host port (if path = "" then "/" else path)) := by
  refine ⟨h.isLegible.parse_eq, ?_⟩
  rw [h.isLegible.parse_eq]
  exact congrArg Except.ok (redacted_eq_write rfl)

/-- A user and a secret with the marks that end them elsewhere, and no path. -/
theorem parse_write_marks :
    IsWritable "sftp" (some "a@b") (some ":p@ss:w") "logs" (some 65535) "" ∧
      parse "sftp://a@b::p@ss:w@logs:65535" =
        .ok {
          scheme := "sftp"
          user := some "a@b"
          embedded := some ⟨"a@b", ":p@ss:w"⟩
          host := some "logs"
          port := some 65535
          path := "/" } ∧
      (parse "sftp://a@b::p@ss:w@logs:65535").map redacted = .ok "sftp://a@b@logs:65535/" := by
  have hwritable : IsWritable "sftp" (some "a@b") (some ":p@ss:w") "logs" (some 65535) "" := {
    scheme_ne := by decide
    scheme_chars := List.forall_iff_forall_mem.mp (by decide)
    scheme_ne_file := by decide
    user_ne := by decide
    user_chars := by decide
    secret_chars := by decide
    host_ne := by decide
    host_chars := List.forall_iff_forall_mem.mp (by decide)
    port_lt := by decide
    path_start := nofun
    path_end := nofun }
  have hwrite : write "sftp" (some "a@b") (some ":p@ss:w") "logs" (some 65535) "" =
      "sftp://a@b::p@ss:w@logs:65535" := by decide
  have hshown : write "sftp" (some "a@b") none "logs" (some 65535) "/" =
      "sftp://a@b@logs:65535/" := by decide
  have hread := parse_write hwritable
  rw [if_pos rfl, hwrite, hshown] at hread
  exact ⟨hwritable, hread⟩

end LogIntake.Uri
