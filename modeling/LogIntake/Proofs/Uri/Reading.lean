import LogIntake.Proofs.Text.Halves
import LogIntake.Proofs.Text.Trim
import LogIntake.Uri.Basic
import Mathlib.Data.List.TakeWhile

/-!
# The parts that an address is read from

* `ofParts`: what is read from a scheme and from the text behind the mark; `parse_eq_ofParts`,
  **`parse_append`**: reading a text with a mark is that, with the white space at both ends set aside.
* `ofParts_of_file`: behind the scheme of local files stands a path.
* `ofPlace?`: what is read from a place and a path; **`ofAuthority?_append`**: behind the last `@` of an
  authority stands a place.
* **`redact_append`**: what is kept of a text with such an `@`.
-/

namespace LogIntake.Uri

open Text

variable {name : String} {scheme info rest : List Char}

/-! ## The scheme and the rest -/

/-- The path of a local file, which the name of the own host may precede. -/
def filePath (rest : List Char) : List Char :=
  if "localhost".toList.isPrefixOf rest then rest.drop "localhost".length else rest

/-- The address with a given scheme and a given text behind the mark. -/
def ofParts (scheme rest : List Char) : Except String Uri :=
  if scheme.isEmpty || !scheme.all isSchemeChar then
    .error (String.ofList (redact (scheme ++ (schemeMark ++ rest))))
  else if String.ofList (scheme.map asciiLower) = "file" then
    if (filePath rest).isEmpty then .error (String.ofList (scheme ++ (schemeMark ++ rest)))
    else .ok (ofPath (String.ofList (filePath rest)))
  else
    (ofAuthority? (String.ofList (scheme.map asciiLower)) rest).elim
      (.error (String.ofList (redact (scheme ++ (schemeMark ++ rest))))) .ok

/-- A text is cut at its first mark. -/
theorem splitAtText?_schemeMark (hmark : ¬ schemeMark <:+: scheme) :
    splitAtText? schemeMark (scheme ++ (schemeMark ++ rest)) = some (scheme, rest) :=
  splitAtText?_append (by decide) hmark

theorem not_mark_trimStart (hmark : ¬ schemeMark <:+: scheme) : ¬ schemeMark <:+: trimStart scheme :=
  fun h => hmark (h.trans (List.dropWhile_suffix _).isInfix)

/-- The mark stays where it is when white space is set aside. -/
theorem trim_append_schemeMark (scheme rest : List Char) :
    trim (scheme ++ (schemeMark ++ rest)) = trimStart scheme ++ (schemeMark ++ trimEnd rest) := by
  have hstart : trimStart (scheme ++ (schemeMark ++ rest)) = trimStart scheme ++ (schemeMark ++ rest) :=
    trimStart_append_cons scheme ("//".toList ++ rest) (by decide)
  have hend := trimEnd_append_cons (trimStart scheme ++ ":/".toList) rest (c := '/') (by decide)
  rw [List.append_assoc, List.append_assoc] at hend
  rw [trim, hstart]
  exact hend

/-- Without white space around it, a text with a mark is read from the parts on both sides of it. -/
theorem parse_eq_ofParts {text : String}
    (h : splitAtText? schemeMark (trim text.toList) = some (scheme, rest)) :
    parse text = ofParts scheme rest := by
  have htext := splitAtText?_eq_some h
  have hempty : (trim text.toList).isEmpty = false := by simp [htext, schemeMark]
  rw [parse, hempty, h, htext]
  dsimp only [ofParts]
  cases ofAuthority? (String.ofList (scheme.map asciiLower)) rest <;> rfl

/-- **A text with a mark is read from its two parts.** -/
theorem parse_append (hmark : ¬ schemeMark <:+: scheme) :
    parse (String.ofList (scheme ++ (schemeMark ++ rest))) =
      ofParts (trimStart scheme) (trimEnd rest) := by
  refine parse_eq_ofParts ?_
  rw [String.toList_ofList, trim_append_schemeMark]
  exact splitAtText?_schemeMark (not_mark_trimStart hmark)

/-! ## The scheme of local files -/

theorem isSchemeChar_of_asciiLower {c : Char} (h : isAsciiLetter (asciiLower c) = true) :
    isSchemeChar c = true := by
  unfold asciiLower at h
  split at h
  · next hcapital =>
    have hletter : isAsciiLetter c = true := by simp [isAsciiLetter, Bool.and_eq_true .. ▸ hcapital]
    simp [isSchemeChar, hletter]
  · simp [isSchemeChar, h]

/-- The scheme of local files is a scheme, in small letters or not. -/
theorem schemeChars_of_file (hfile : String.ofList (scheme.map asciiLower) = "file") :
    scheme ≠ [] ∧ ∀ c ∈ scheme, isSchemeChar c = true := by
  have hlist : scheme.map asciiLower = "file".toList := String.ofList_inj.mp hfile
  constructor
  · rintro rfl
    exact absurd hlist (by decide)
  · intro c hc
    have hmem : asciiLower c ∈ "file".toList := hlist ▸ List.mem_map_of_mem hc
    exact isSchemeChar_of_asciiLower (List.all_eq_true.mp (by decide) _ hmem)

/-- **Behind the scheme of local files stands a path**, which must not be empty. -/
theorem ofParts_of_file (hfile : String.ofList (scheme.map asciiLower) = "file") :
    ofParts scheme rest =
      if (filePath rest).isEmpty then .error (String.ofList (scheme ++ (schemeMark ++ rest)))
      else .ok (ofPath (String.ofList (filePath rest))) := by
  obtain ⟨hne, hchars⟩ := schemeChars_of_file hfile
  have hall : scheme.all isSchemeChar = true := List.all_eq_true.mpr hchars
  rw [ofParts, if_neg (by simp [hall, hne]), if_pos hfile]

/-! ## The authority -/

/-- The address with a given scheme, a given user and what follows the user. -/
def ofPlace? (scheme : String) (info : Option (String × Option Credentials)) (rest : List Char) :
    Option Uri := do
  let place := rest.takeWhile (· != '/')
  let path := rest.drop place.length
  let (host, port) ← hostPort? place
  if host.isEmpty then none
  else
    return {
      scheme
      user := (info.map (·.1)).filter (· ≠ "")
      embedded := info.bind (·.2)
      host := some (String.ofList host)
      port
      path := if path.isEmpty then "/" else String.ofList path }

theorem takeWhile_append_at (hinfo : '/' ∉ info) :
    (info ++ '@' :: rest).takeWhile (· != '/') = info ++ '@' :: rest.takeWhile (· != '/') := by
  rw [takeWhile_append_of_not_mem hinfo]
  rfl

/-- What follows the authority is the path, whether or not a user stands in the authority. -/
theorem drop_append_at :
    (info ++ '@' :: rest).drop (info ++ '@' :: rest.takeWhile (· != '/')).length =
      rest.drop (rest.takeWhile (· != '/')).length := by
  rw [List.length_append, ← List.drop_drop, List.drop_left, List.length_cons, List.drop_succ_cons]

/-- **An authority without a user is a place.** -/
theorem ofAuthority?_of_not_mem (h : '@' ∉ rest.takeWhile (· != '/')) :
    ofAuthority? name rest = ofPlace? name none rest := by
  simp only [ofAuthority?, splitLast?_of_not_mem h]
  rfl

/-- **Behind the last `@` of an authority stands a place.** -/
theorem ofAuthority?_append (hinfo : '/' ∉ info) (h : '@' ∉ rest.takeWhile (· != '/')) :
    ofAuthority? name (info ++ '@' :: rest) = ofPlace? name (some (userInfo info)) rest := by
  simp only [ofAuthority?, takeWhile_append_at hinfo, drop_append_at, splitLast?_append h]
  rfl

/-- **Of what stands before the last `@` of an authority, the part before the first colon is kept.** -/
theorem redact_append (hmark : ¬ schemeMark <:+: scheme) (hinfo : '/' ∉ info)
    (h : '@' ∉ rest.takeWhile (· != '/')) :
    redact (scheme ++ (schemeMark ++ (info ++ '@' :: rest))) =
      scheme ++ (schemeMark ++ (info.takeWhile (· != ':') ++ '@' :: rest)) := by
  have hpath : rest.takeWhile (· != '/') ++ rest.drop (rest.takeWhile (· != '/')).length = rest :=
    (List.prefix_append_drop (List.takeWhile_prefix _)).symm
  simp only [redact, splitAtText?_schemeMark hmark, takeWhile_append_at hinfo, drop_append_at,
    splitLast?_append h, List.append_assoc, List.cons_append, hpath]

end LogIntake.Uri
