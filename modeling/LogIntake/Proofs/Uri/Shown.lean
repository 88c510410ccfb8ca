import LogIntake.Negotiation.Basic
import LogIntake.Proofs.Uri.Written

/-!
# The shown form of an address tells its place

* `hostPort?_eq_some`, `userInfo_chars`: what the parts of an address that has been read are free of.
* `ofAuthority?_cases`: behind the mark stands a place, with or without a login in front of it.
* **`isLegible_of_parse`**: an address with a host, however it was written, is shown so that each part can be
  told from the next one.
* **`redacted_eq_iff`**: so two such addresses are shown alike exactly if they name the same place, and what
  is shown is read as the address without its secret.
-/

namespace LogIntake.Uri

open Text

variable {name : String} {uri uri' : Uri} {text text' : String} {s scheme host rest : List Char} {n : Nat}
  {port : Option Nat} {info : Option (String × Option Credentials)}

/-! ## The parts -/

/-- A character of a scheme is kept in small letters. -/
theorem scheme_char_lower {c : Char} (h : isSchemeChar c = true) :
    isSchemeChar (asciiLower c) = true ∧ asciiLower (asciiLower c) = asciiLower c := by
  by_cases hcapital : ('A' ≤ c && c ≤ 'Z') = true
  · have hletters : ∀ n < 26, isSchemeChar (Char.ofNat (n + 97)) = true ∧
        asciiLower (Char.ofNat (n + 97)) = Char.ofNat (n + 97) := by decide
    have hbounds : 65 ≤ c.toNat ∧ c.toNat ≤ 90 := by
      simpa [Char.le_def, UInt32.le_iff_toNat_le] using hcapital
    rw [asciiLower, if_pos hcapital, show c.toNat + 32 = c.toNat - 65 + 97 by omega]
    exact hletters (c.toNat - 65) (by omega)
  · have hkept : asciiLower c = c := if_neg hcapital
    rw [hkept]
    exact ⟨h, hkept⟩

theorem port?_lt (h : port? s = some n) : n < 65536 := by
  simp only [port?, Option.ite_none_left_eq_some, Option.ite_none_right_eq_some] at h
  obtain ⟨-, hlt, hn⟩ := h
  rwa [Option.some_inj.mp hn] at hlt

/-- A host without a port is free of colons, and a port is a number of 16 bits. -/
theorem hostPort?_eq_some (h : hostPort? s = some (host, port)) :
    host ⊆ s ∧ (port = none → ':' ∉ host) ∧ ∀ n ∈ port, n < 65536 := by
  rw [hostPort?] at h
  split at h
  · next hsplit =>
    cases h
    exact ⟨List.Subset.refl s, fun _ => not_mem_of_splitLast?_eq_none hsplit, by simp⟩
  · next before digits hsplit =>
    obtain ⟨n, hport, heq⟩ := Option.map_eq_some_iff.mp h
    cases heq
    refine ⟨?_, by simp, ?_⟩
    · rw [(splitLast?_eq_some hsplit).1]
      exact List.subset_append_left _ _
    · intro m hm
      exact Option.some_inj.mp hm ▸ port?_lt hport

/-- The user of a login stands in front of its first colon. -/
theorem userInfo_chars (s : List Char) :
    ':' ∉ (userInfo s).1.toList ∧ (userInfo s).1.toList ⊆ s := by
  rw [userInfo]
  cases hsplit : splitFirst? ':' s with
  | none => simp [not_mem_of_splitFirst?_eq_none hsplit]
  | some halves =>
    obtain ⟨rfl, hfree⟩ := splitFirst?_eq_some hsplit
    simp [hfree]

/-! ## What has been read -/

/-- **Behind the mark stands a place**, or a login, an `@` and a place. -/
theorem ofAuthority?_cases (name : String) (rest : List Char) :
    ∃ info place, ofAuthority? name rest = ofPlace? name info place ∧ place <:+ rest ∧
      '@' ∉ place.takeWhile (· != '/') ∧
      ∀ login ∈ info, ':' ∉ login.1.toList ∧ '/' ∉ login.1.toList := by
  cases hsplit : splitLast? '@' (rest.takeWhile (· != '/')) with
  | none =>
    have hfree := not_mem_of_splitLast?_eq_none hsplit
    exact ⟨none, rest, ofAuthority?_of_not_mem hfree, List.suffix_rfl, hfree, by simp⟩
  | some halves =>
    obtain ⟨login, place⟩ := halves
    obtain ⟨hauthority, hfree⟩ := splitLast?_eq_some hsplit
    have hslash : '/' ∉ login := by
      intro hmem
      have hauth : '/' ∈ rest.takeWhile (· != '/') := hauthority ▸ List.mem_append_left _ hmem
      exact absurd (List.mem_takeWhile_imp hauth) (by decide)
    have hrest : rest = login ++ '@' :: (place ++ rest.dropWhile (· != '/')) := by
      rw [← List.cons_append, ← List.append_assoc, ← hauthority, List.takeWhile_append_dropWhile]
    have hplace : (place ++ rest.dropWhile (· != '/')).takeWhile (· != '/') = place := by
      have htake : (login ++ '@' :: (place ++ rest.dropWhile (· != '/'))).takeWhile (· != '/') =
          login ++ '@' :: (place ++ rest.dropWhile (· != '/')).takeWhile (· != '/') :=
        takeWhile_append_at hslash
      rw [← hrest, hauthority] at htake
      exact (List.cons.inj (List.append_cancel_left htake)).2.symm
    have hat : '@' ∉ (place ++ rest.dropWhile (· != '/')).takeWhile (· != '/') := by
      rwa [hplace]
    have hread : ofAuthority? name (login ++ '@' :: (place ++ rest.dropWhile (· != '/'))) =
        ofPlace? name (some (userInfo login)) (place ++ rest.dropWhile (· != '/')) :=
      ofAuthority?_append hslash hat
    rw [← hrest] at hread
    refine ⟨_, _, hread, ⟨login ++ ['@'], ?_⟩, hat, ?_⟩
    · rw [List.append_assoc]
      exact hrest.symm
    · intro info hinfo
      obtain ⟨hcolon, hsubset⟩ := userInfo_chars login
      rw [← Option.some_inj.mp hinfo]
      exact ⟨hcolon, fun hmem => hslash (hsubset hmem)⟩

/-- A path begins with a slash, and does not end in white space if the whole does not. -/
theorem exists_path (place : List Char) (hend : ∀ c ∈ place.getLast?, isBlank c = false) :
    let path := place.drop (place.takeWhile (· != '/')).length
    ∃ later, (if path.isEmpty then "/" else String.ofList path).toList = '/' :: later ∧
      ∀ c ∈ ('/' :: later).getLast?, isBlank c = false := by
  intro path
  have hplace : place.takeWhile (· != '/') ++ path = place :=
    (List.prefix_append_drop (List.takeWhile_prefix _)).symm
  have hpath : path = place.dropWhile (· != '/') :=
    List.append_cancel_left (hplace.trans List.takeWhile_append_dropWhile.symm)
  cases hlist : path with
  | nil =>
    refine ⟨[], rfl, fun c hc => ?_⟩
    rw [← Option.some_inj.mp hc]
    decide
  | cons c later =>
    have hhead := List.head?_dropWhile_not (· != '/') place
    rw [← hpath, hlist] at hhead
    obtain rfl : c = '/' := by simpa using hhead
    refine ⟨later, by simp, fun d hd => hend d ?_⟩
    rw [← hplace, hlist, List.getLast?_append, Option.mem_def.mp hd]
    rfl

/-- An address that is read from a scheme and what stands behind the mark. -/
theorem isLegible_of_ofAuthority? (hread : ofAuthority? name rest = some uri) (hne : name ≠ "")
    (hchars : ∀ c ∈ name.toList, isSchemeChar c = true ∧ asciiLower c = c) (hfile : name ≠ "file")
    (hend : ∀ c ∈ rest.getLast?, isBlank c = false) :
    ∃ host, uri.host = some host ∧ uri.path ≠ "" ∧
      IsLegible uri.scheme uri.user none host uri.port uri.path := by
  obtain ⟨info, place, hplace, ⟨before, hrest⟩, hat, hlogin⟩ := ofAuthority?_cases name rest
  rw [hplace, ofPlace?, Option.bind_eq_bind, Option.bind_eq_some_iff] at hread
  obtain ⟨⟨host, port⟩, hhost, hread⟩ := hread
  rw [Option.ite_none_left_eq_some] at hread
  obtain ⟨hhost_ne, hread⟩ := hread
  obtain ⟨hsubset, hcolon, hport⟩ := hostPort?_eq_some hhost
  have hplace_end : ∀ c ∈ place.getLast?, isBlank c = false := by
    intro c hc
    refine hend c ?_
    rw [← hrest, List.getLast?_append, Option.mem_def.mp hc]
    rfl
  obtain ⟨later, hpath, hpath_end⟩ := exists_path place hplace_end
  obtain rfl := Option.some_inj.mp hread
  have huser : ∀ u ∈ (info.map (·.1)).filter (· ≠ ""), u ≠ "" ∧ ':' ∉ u.toList ∧ '/' ∉ u.toList := by
    intro u hu
    obtain ⟨hmem, hu_ne⟩ := Option.mem_filter_iff.mp hu
    obtain ⟨login, hinfo, rfl⟩ := Option.mem_map.mp hmem
    exact ⟨of_decide_eq_true hu_ne, hlogin login hinfo⟩
  refine ⟨String.ofList host, rfl, ?_, ?_⟩
  · rw [← String.toList_inj.ne, hpath]
    exact List.cons_ne_nil _ _
  exact {
    scheme_ne := hne
    scheme_chars := hchars
    scheme_ne_file := hfile
    user_ne := fun u hu => (huser u hu).1
    user_chars := fun u hu => (huser u hu).2
    secret_chars := by simp
    host_ne := by simpa [← String.toList_inj] using hhost_ne
    host_chars := by
      rw [String.toList_ofList]
      exact ⟨fun hmem => absurd (List.mem_takeWhile_imp (hsubset hmem)) (by decide),
        fun hmem => hat (hsubset hmem)⟩
    host_colon := by simpa using hcolon
    port_lt := hport
    path_start := by
      rw [hpath]
      intro c hc
      exact (Option.some_inj.mp hc).symm
    solid_end := by
      rw [hpath]
      intro c hc
      rw [List.getLast?_append_cons] at hc
      exact hpath_end c hc }

/-- Only a scheme of its own gives an address with a host. -/
theorem ofParts_eq_ok (h : ofParts scheme rest = .ok uri) (hhost : uri.host ≠ none) :
    scheme ≠ [] ∧ (∀ c ∈ scheme, isSchemeChar c = true) ∧
      String.ofList (scheme.map asciiLower) ≠ "file" ∧
      ofAuthority? (String.ofList (scheme.map asciiLower)) rest = some uri := by
  rw [ofParts] at h
  split at h
  · cases h
  next hscheme =>
  rw [Bool.or_eq_true, not_or] at hscheme
  split at h
  · split at h
    · cases h
    · cases h
      exact absurd rfl hhost
  next hfile =>
  cases hread : ofAuthority? (String.ofList (scheme.map asciiLower)) rest with
  | none =>
    rw [hread] at h
    cases h
  | some found =>
    rw [hread] at h
    cases h
    exact ⟨by simpa using hscheme.1, by simpa using hscheme.2, hfile, rfl⟩

/-- **An address with a host is shown so that each part can be told from the next one**, however it was
written. -/
theorem isLegible_of_parse (h : parse text = .ok uri) (hhost : uri.host ≠ none) :
    ∃ host, uri.host = some host ∧ uri.path ≠ "" ∧
      IsLegible uri.scheme uri.user none host uri.port uri.path := by
  cases hsplit : splitAtText? schemeMark (trim text.toList) with
  | none =>
    simp only [parse, hsplit] at h
    split at h
    · cases h
    · cases h
      exact absurd rfl hhost
  | some parts =>
    obtain ⟨scheme, rest⟩ := parts
    rw [parse_eq_ofParts hsplit] at h
    obtain ⟨hne, hall, hfile, hread⟩ := ofParts_eq_ok h hhost
    refine isLegible_of_ofAuthority? hread ?_ ?_ hfile ?_
    · simpa [← String.toList_inj] using hne
    · rw [String.toList_ofList]
      intro c hc
      obtain ⟨d, hd, rfl⟩ := List.mem_map.mp hc
      exact scheme_char_lower (hall d hd)
    · intro c hc
      refine getLast?_trim (s := text.toList) ?_
      rw [splitAtText?_eq_some hsplit, List.getLast?_append, List.getLast?_append, Option.mem_def.mp hc]
      rfl

/-! ## What is shown -/

/-- What is shown of an address with a host is read as the address without its secret. -/
theorem parse_redacted (h : parse text = .ok uri) (hhost : uri.host ≠ none) :
    parse uri.redacted = .ok { uri with embedded := none } := by
  obtain ⟨host, hsome, hpath, hlegible⟩ := isLegible_of_parse h hhost
  rw [redacted_eq_write hsome, hlegible.parse_eq, if_neg hpath]
  obtain ⟨scheme, user, embedded, found, port, path⟩ := uri
  obtain rfl : found = some host := hsome
  cases user <;> rfl

/-- **Addresses with a host are shown alike exactly if they name the same place**: the scheme, the user, the
host, the port and the path are the same, whatever secrets were written into the texts. What is shown is what
credentials are remembered under, and it is read as the same address without a secret. -/
theorem redacted_eq_iff (h : parse text = .ok uri) (h' : parse text' = .ok uri') (hhost : uri.host ≠ none)
    (hhost' : uri'.host ≠ none) :
    (uri.redacted = uri'.redacted ↔ uri.scheme = uri'.scheme ∧ uri.user = uri'.user ∧
      uri.host = uri'.host ∧ uri.port = uri'.port ∧ uri.path = uri'.path) ∧
    parse uri.redacted = .ok { uri with embedded := none } ∧
    (credentialKey text = credentialKey text' ↔ uri.redacted = uri'.redacted) := by
  refine ⟨⟨fun hshown => ?_, fun hparts => ?_⟩, parse_redacted h hhost, ?_⟩
  · have hread := parse_redacted h hhost
    rw [hshown, parse_redacted h' hhost', Except.ok.injEq, Uri.mk.injEq] at hread
    obtain ⟨hscheme, huser, -, hsome, hport, hpath⟩ := hread
    exact ⟨hscheme.symm, huser.symm, hsome.symm, hport.symm, hpath.symm⟩
  · obtain ⟨hscheme, huser, hsome, hport, hpath⟩ := hparts
    rw [redacted, redacted, hscheme, huser, hsome, hport, hpath]
  · rw [credentialKey, credentialKey, h, h']

/-- A port with a sign and leading zeros, behind a host with colons and a user with an `@`. -/
theorem redacted_eq_iff_lenient :
    parse "SFTP://a@b:pw@h:1 :+022" = .ok {
        scheme := "sftp", user := some "a@b", embedded := some ⟨"a@b", "pw"⟩
        host := some "h:1 ", port := some 22, path := "/" } ∧
      parse "sftp://a@b@h:1 :22/" = .ok {
        scheme := "sftp", user := some "a@b", host := some "h:1 ", port := some 22, path := "/" } ∧
      credentialKey "SFTP://a@b:pw@h:1 :+022" = credentialKey "sftp://a@b@h:1 :22/" := by
  have hread : parse "SFTP://a@b:pw@h:1 :+022" = .ok {
      scheme := "sftp", user := some "a@b", embedded := some ⟨"a@b", "pw"⟩
      host := some "h:1 ", port := some 22, path := "/" } := by decide
  have hread' : parse "sftp://a@b@h:1 :22/" = .ok {
      scheme := "sftp", user := some "a@b", host := some "h:1 ", port := some 22, path := "/" } := by
    decide
  obtain ⟨hparts, -, hkeys⟩ := redacted_eq_iff hread hread' nofun nofun
  exact ⟨hread, hread', hkeys.mpr (hparts.mpr ⟨rfl, rfl, rfl, rfl, rfl⟩)⟩

end LogIntake.Uri
