import LogIntake.Proofs.Uri.Reading

/-!
# Secrets are not shown

* `withLogin`: a text with a user, and perhaps a secret, in front of the last `@` of its authority.
* `redact_withLogin`: the text without the secret.
* `ofParts_map_redacted`: an address is shown, or refused, as it is without the secret, unless it is
  that of a local file; `ofParts_file`: there the secret is a part of the path.
* **`secret_shown_iff`**: two texts that differ in the secret are accepted or refused alike, and the
  addresses are shown differently exactly if they are those of local files.
-/

namespace LogIntake.Uri

open Text

variable {name : String} {scheme login user secret other rest : List Char}

/-! ## Texts -/

/-- A text with a user, or with a user, a colon and a secret. -/
def withLogin (scheme login rest : List Char) : List Char :=
  scheme ++ (schemeMark ++ (login ++ '@' :: rest))

theorem takeWhile_user (hcolon : ':' ∉ user) : user.takeWhile (· != ':') = user := by
  have huser := takeWhile_append_of_not_mem (s := []) hcolon
  rwa [List.append_nil, List.takeWhile_nil, List.append_nil] at huser

theorem takeWhile_login (hcolon : ':' ∉ user) :
    (user ++ ':' :: secret).takeWhile (· != ':') = user := by
  rw [takeWhile_append_of_not_mem hcolon, List.takeWhile_cons_of_neg (by decide), List.append_nil]

theorem not_mem_login (huser : '/' ∉ user) (hsecret : '/' ∉ secret) :
    '/' ∉ user ++ ':' :: secret := by
  simp [huser, hsecret]

/-- White space is set aside around the login, and not in it. -/
theorem parse_withLogin (hmark : ¬ schemeMark <:+: scheme) :
    parse (String.ofList (withLogin scheme login rest)) =
      ofParts (trimStart scheme) (login ++ '@' :: trimEnd rest) := by
  rw [withLogin, parse_append hmark, trimEnd_append_cons _ _ (by decide)]

/-- White space that is set aside at the end brings no `@` into the authority. -/
theorem not_mem_takeWhile_trimEnd (hrest : '@' ∉ rest.takeWhile (· != '/')) :
    '@' ∉ (trimEnd rest).takeWhile (· != '/') := by
  obtain ⟨blanks, hblanks⟩ := trimEnd_prefix rest
  intro hat
  rw [← hblanks, List.takeWhile_append] at hrest
  split at hrest
  · exact hrest (List.mem_append_left _ (List.takeWhile_subset _ hat))
  · exact hrest hat

section

variable (hcolon : ':' ∉ user) (huser : '/' ∉ user) (hsecret : '/' ∉ secret)
  (hrest : '@' ∉ rest.takeWhile (· != '/'))

include hcolon huser hsecret hrest

/-- **A text without its secret.** -/
theorem redact_withLogin (hmark : ¬ schemeMark <:+: scheme) :
    redact (withLogin scheme (user ++ ':' :: secret) rest) = withLogin scheme user rest := by
  rw [withLogin, redact_append hmark (not_mem_login huser hsecret) hrest, takeWhile_login hcolon]
  rfl

/-! ## Addresses with an authority -/

/-- An address is shown as it is without its secret. -/
theorem ofAuthority?_map_redacted :
    (ofAuthority? name (user ++ ':' :: secret ++ '@' :: rest)).map redacted =
      (ofAuthority? name (user ++ '@' :: rest)).map redacted := by
  rw [ofAuthority?_append (not_mem_login huser hsecret) hrest, ofAuthority?_append huser hrest,
    userInfo, userInfo, splitFirst?_append hcolon, splitFirst?_of_not_mem hcolon]
  simp only [ofPlace?, Option.bind_eq_bind, Option.map_bind]
  refine Option.bind_congr fun place _ => ?_
  simp only [Function.comp_apply]
  split <;> rfl

/-- **A text with a secret is shown as it is without the secret**, as an address or as what is
refused. -/
theorem ofParts_map_redacted (hmark : ¬ schemeMark <:+: scheme)
    (hfile : String.ofList (scheme.map asciiLower) ≠ "file") :
    (ofParts scheme (user ++ ':' :: secret ++ '@' :: rest)).map redacted =
      (ofParts scheme (user ++ '@' :: rest)).map redacted := by
  have hredact : redact (scheme ++ (schemeMark ++ (user ++ ':' :: secret ++ '@' :: rest))) =
      redact (scheme ++ (schemeMark ++ (user ++ '@' :: rest))) := by
    rw [redact_append hmark (not_mem_login huser hsecret) hrest, redact_append hmark huser hrest,
      takeWhile_login hcolon, takeWhile_user hcolon]
  have hshown : ∀ (found : Option Uri) (refused : String),
      Except.map redacted (found.elim (.error refused) .ok) =
        (found.map redacted).elim (.error refused) .ok := by
    intro found refused
    cases found <;> rfl
  rw [ofParts, ofParts, if_neg hfile, if_neg hfile, hredact]
  split
  · rfl
  · rw [hshown, hshown, ofAuthority?_map_redacted hcolon huser hsecret hrest]

end

/-! ## Addresses of local files -/

theorem isPrefix_of_append_cons {α : Type} {p s t : List α} {a : α} (ha : a ∉ p)
    (h : p <+: s ++ a :: t) : p <+: s := by
  rcases Nat.lt_or_ge s.length p.length with hlen | hlen
  · have hlonger : s ++ [a] <+: p :=
      List.prefix_of_prefix_length_le ⟨t, by simp⟩ h (by simpa using Nat.succ_le_of_lt hlen)
    exact absurd (hlonger.mem (by simp)) ha
  · exact List.prefix_of_prefix_length_le h (List.prefix_append _ _) hlen

/-- The path of a local file keeps what stands from the first colon on. -/
theorem filePath_append (user rest : List Char) :
    filePath (user ++ ':' :: rest) = filePath user ++ ':' :: rest := by
  by_cases hlocal : "localhost".toList <+: user
  · obtain ⟨later, rfl⟩ := hlocal
    have hstarts : ∀ s, "localhost".toList.isPrefixOf ("localhost".toList ++ s) = true :=
      fun s => List.isPrefixOf_iff_prefix.mpr (List.prefix_append _ _)
    have hdrop : ∀ s, ("localhost".toList ++ s).drop "localhost".length = s := fun s => rfl
    rw [filePath, filePath, List.append_assoc, if_pos (hstarts _), if_pos (hstarts _), hdrop, hdrop]
  · have hnot : ¬ "localhost".toList <+: user ++ ':' :: rest :=
      fun h => hlocal (isPrefix_of_append_cons (by decide) h)
    rw [filePath, filePath, if_neg (mt List.isPrefixOf_iff_prefix.mp hnot),
      if_neg (mt List.isPrefixOf_iff_prefix.mp hlocal)]

/-- **The address of a local file keeps the secret in its path.** -/
theorem ofParts_file (hfile : String.ofList (scheme.map asciiLower) = "file") :
    ofParts scheme (user ++ ':' :: secret ++ '@' :: rest) =
      .ok (ofPath (String.ofList (filePath user ++ ':' :: (secret ++ '@' :: rest)))) := by
  rw [ofParts_of_file hfile, List.append_assoc, List.cons_append, filePath_append, if_neg (by simp)]

theorem redacted_ofPath_inj {path path' : String} :
    (ofPath path).redacted = (ofPath path').redacted ↔ path = path' := by
  rw [redacted, redacted, ofPath, ofPath, String.append_right_inj]

/-! ## Two secrets -/

/-- What is refused, and how, can be told from what is shown. -/
theorem eq_error_iff_of_map_eq {ε α β : Type} {f : α → β} {x y : Except ε α}
    (h : x.map f = y.map f) (e : ε) : x = .error e ↔ y = .error e := by
  cases x with
  | error d =>
    cases y with
    | error d' => rw [Except.error.inj h]
    | ok b => cases h
  | ok a =>
    cases y with
    | error d' => cases h
    | ok b => exact iff_of_false nofun nofun

/-- **Two texts that differ in the secret** are redacted alike and accepted or refused alike, with the
same text when refused. The addresses are shown differently exactly if they are those of local
files. -/
theorem secret_shown_iff (hmark : ¬ schemeMark <:+: scheme) (hcolon : ':' ∉ user) (huser : '/' ∉ user)
    (hsecret : '/' ∉ secret) (hother : '/' ∉ other) (hrest : '@' ∉ rest.takeWhile (· != '/')) :
    redact (withLogin scheme (user ++ ':' :: secret) rest) =
        redact (withLogin scheme (user ++ ':' :: other) rest) ∧
      (∀ refused, parse (String.ofList (withLogin scheme (user ++ ':' :: secret) rest)) =
          .error refused ↔
        parse (String.ofList (withLogin scheme (user ++ ':' :: other) rest)) = .error refused) ∧
      ((parse (String.ofList (withLogin scheme (user ++ ':' :: secret) rest))).map redacted =
          (parse (String.ofList (withLogin scheme (user ++ ':' :: other) rest))).map redacted ↔
        String.ofList ((trimStart scheme).map asciiLower) ≠ "file" ∨ secret = other) := by
  have hmark' := not_mark_trimStart hmark
  have hrest' := not_mem_takeWhile_trimEnd hrest
  rw [parse_withLogin hmark, parse_withLogin hmark, redact_withLogin hcolon huser hsecret hrest hmark,
    redact_withLogin hcolon huser hother hrest hmark]
  refine ⟨rfl, ?_⟩
  by_cases hfile : String.ofList ((trimStart scheme).map asciiLower) = "file"
  · rw [ofParts_file hfile, ofParts_file hfile]
    refine ⟨fun refused => by simp, ?_⟩
    rw [Except.map, Except.map, Except.ok.injEq, redacted_ofPath_inj, String.ofList_inj,
      List.append_right_inj, List.cons_inj_right, List.append_left_inj]
    exact ⟨.inr, fun h => h.resolve_left (not_not_intro hfile)⟩
  · have hshown : (ofParts (trimStart scheme) (user ++ ':' :: secret ++ '@' :: trimEnd rest)).map
          redacted =
        (ofParts (trimStart scheme) (user ++ ':' :: other ++ '@' :: trimEnd rest)).map redacted :=
      (ofParts_map_redacted hcolon huser hsecret hrest' hmark' hfile).trans
        (ofParts_map_redacted hcolon huser hother hrest' hmark' hfile).symm
    exact ⟨eq_error_iff_of_map_eq hshown, iff_of_true hshown (.inl hfile)⟩

/-- A secret that holds the marks around it. -/
theorem secret_shown_remote :
    redact "sftp://u:p@ss:w@h:22/p@q".toList = redact "sftp://u::@h:22/p@q".toList ∧
      (∀ refused, parse "sftp://u:p@ss:w@h:22/p@q" = .error refused ↔
        parse "sftp://u::@h:22/p@q" = .error refused) ∧
      (parse "sftp://u:p@ss:w@h:22/p@q").map redacted = (parse "sftp://u::@h:22/p@q").map redacted := by
  have h := @secret_shown_iff "sftp".toList "u".toList "p@ss:w".toList ":".toList "h:22/p@q".toList
    (by decide) (by decide) (by decide) (by decide) (by decide) (by decide)
  exact ⟨h.1, h.2.1, h.2.2.mpr (.inl (by decide))⟩

/-- The address of a local file is shown with the secret that the redacted text leaves out. -/
theorem not_hidden_localFile :
    redact "file://u:pw@h/p".toList = "file://u@h/p".toList ∧
      redact "file://u:other@h/p".toList = "file://u@h/p".toList ∧
      (parse "file://u:pw@h/p").map redacted = .ok "file://u:pw@h/p" ∧
      (parse "file://u:other@h/p").map redacted = .ok "file://u:other@h/p" := by
  decide

end LogIntake.Uri
