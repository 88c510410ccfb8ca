import LogIntake.Proofs.Uri.Reading

/-!
# Paths of local files

* `filePath_append`, `filePath_eq_self_iff`: the name of the own host is set aside wherever a path begins
  with it.
* `parse_of_bare`: a text without a mark is a path; `parse_of_file`: so is what stands behind the scheme of
  local files, but for that name.
* **`path_kept_iff`**: a path is kept, and read back from its shown form, exactly if it does not begin with
  the name of the own host.
-/

namespace LogIntake.Uri

open Text

variable {scheme rest later : List Char} {text path : String}

/-! ## The name of the own host -/

/-- The name is set aside, whatever follows it. -/
theorem filePath_host (later : List Char) : filePath ("localhost".toList ++ later) = later := by
  rw [filePath, if_pos (List.isPrefixOf_iff_prefix.mpr (List.prefix_append _ _))]
  rfl

theorem filePath_of_not_prefix (h : ¬ "localhost".toList <+: rest) : filePath rest = rest :=
  if_neg (mt List.isPrefixOf_iff_prefix.mp h)

theorem filePath_eq_self_iff : filePath rest = rest ↔ ¬ "localhost".toList <+: rest := by
  refine ⟨?_, filePath_of_not_prefix⟩
  rintro hsame ⟨later, rfl⟩
  rw [filePath_host] at hsame
  have hlength := congrArg List.length hsame
  rw [List.length_append] at hlength
  simp at hlength

/-! ## Reading a path -/

/-- A text without a mark is the path of a local file. -/
theorem parse_of_bare (hne : path ≠ "") (htrim : IsTrimmed path.toList)
    (hmark : ¬ schemeMark <:+: path.toList) : parse path = .ok (ofPath path) := by
  have hempty : path.toList.isEmpty = false := by simpa using hne
  have hsplit : splitAtText? schemeMark path.toList = none := by
    by_contra hsome
    obtain ⟨⟨before, after⟩, hsplit⟩ := Option.ne_none_iff_exists'.mp hsome
    exact hmark ⟨before, after, by rw [splitAtText?_eq_some hsplit, List.append_assoc]⟩
  simp [parse, trim_eq_self htrim, hempty, hsplit]

/-- What stands behind the scheme of local files is a path, but for the name of the own host. -/
theorem parse_of_file (htext : trim text.toList = scheme ++ (schemeMark ++ rest))
    (hfile : String.ofList (scheme.map asciiLower) = "file") :
    parse text =
      if filePath rest = [] then .error (String.ofList (trim text.toList))
      else .ok (ofPath (String.ofList (filePath rest))) := by
  have hmark : ¬ schemeMark <:+: scheme := by
    intro hinfix
    have hcolon : ':' ∈ scheme := hinfix.mem (by decide)
    exact absurd ((schemeChars_of_file hfile).2 _ hcolon) (by decide)
  have hsplit : splitAtText? schemeMark (trim text.toList) = some (scheme, rest) := by
    rw [htext]
    exact splitAtText?_schemeMark hmark
  simp only [parse_eq_ofParts hsplit, ofParts_of_file hfile, htext, List.isEmpty_iff]

theorem redacted_ofPath (path : String) : (ofPath path).redacted = "file://" ++ path := rfl

/-- The shown form of a path is a mark behind the scheme of local files. -/
theorem trim_redacted_ofPath (hne : path ≠ "") (htrim : IsTrimmed path.toList) :
    trim (ofPath path).redacted.toList = "file".toList ++ (schemeMark ++ path.toList) := by
  have hlist : (ofPath path).redacted.toList = "file".toList ++ (schemeMark ++ path.toList) := by
    simp [redacted_ofPath, schemeMark]
  have htrimmed : IsTrimmed ("file".toList ++ (schemeMark ++ path.toList)) := by
    refine ⟨fun c hc => ?_, fun c hc => htrim.2 c ?_⟩
    · obtain rfl : 'f' = c := Option.some_inj.mp hc
      decide
    · have hpath : path.toList ≠ [] := by simpa using hne
      rwa [List.getLast?_append_of_ne_nil _ (by simp [schemeMark]),
        List.getLast?_append_of_ne_nil _ hpath] at hc
  rw [hlist, trim_eq_self htrimmed]

/-- **Behind the scheme of local files a path is kept exactly if it does not begin with the name of the own
host**, and is not empty. -/
theorem parse_file_iff (htext : trim text.toList = scheme ++ (schemeMark ++ rest))
    (hfile : String.ofList (scheme.map asciiLower) = "file") :
    parse text = .ok (ofPath (String.ofList rest)) ↔ rest ≠ [] ∧ ¬ "localhost".toList <+: rest := by
  rw [parse_of_file htext hfile, ← filePath_eq_self_iff]
  by_cases hempty : filePath rest = []
  · rw [if_pos hempty, hempty]
    exact iff_of_false nofun fun ⟨hne, hsame⟩ => hne hsame.symm
  · rw [if_neg hempty, Except.ok.injEq, ofPath, ofPath, Uri.mk.injEq]
    simp only [String.ofList_inj, true_and]
    exact ⟨fun hsame => ⟨hsame ▸ hempty, hsame⟩, And.right⟩

/-- **The path of a local file is kept exactly if it does not begin with the name of the own host.** A path
that stands alone is read as it is; it is shown behind `file://`, and read back from there exactly if it does
not begin so. Behind the scheme of local files a path is kept under the same condition. Otherwise the name is
set aside, whatever follows it. -/
theorem path_kept_iff (path text : String) (scheme rest : List Char) :
    (path ≠ "" → IsTrimmed path.toList → ¬ schemeMark <:+: path.toList →
      parse path = .ok (ofPath path) ∧
      (ofPath path).redacted = "file://" ++ path ∧
      (parse (ofPath path).redacted = .ok (ofPath path) ↔ ¬ "localhost".toList <+: path.toList)) ∧
    (trim text.toList = scheme ++ (schemeMark ++ rest) →
      String.ofList (scheme.map asciiLower) = "file" →
      (parse text = .ok (ofPath (String.ofList rest)) ↔
        rest ≠ [] ∧ ¬ "localhost".toList <+: rest) ∧
      ∀ later, rest = "localhost".toList ++ later →
        parse text =
          if later = [] then .error (String.ofList (trim text.toList))
          else .ok (ofPath (String.ofList later))) := by
  refine ⟨fun hne htrim hmark => ⟨parse_of_bare hne htrim hmark, redacted_ofPath path, ?_⟩,
    fun htext hfile => ⟨parse_file_iff htext hfile, ?_⟩⟩
  · have hkept := parse_file_iff (trim_redacted_ofPath hne htrim) rfl
    rw [String.ofList_toList] at hkept
    rw [hkept]
    exact and_iff_right (by simpa using hne)
  · rintro later rfl
    rw [parse_of_file htext hfile, filePath_host]

/-- A path with a blank, alone and behind a scheme in capitals. -/
theorem path_kept_iff_blank :
    parse "logs/my app.log" = .ok (ofPath "logs/my app.log") ∧
      parse (ofPath "logs/my app.log").redacted = .ok (ofPath "logs/my app.log") ∧
      parse " FILE://logs/my app.log\n" = .ok (ofPath "logs/my app.log") := by
  have htrimmed : IsTrimmed "logs/my app.log".toList := by
    constructor <;>
      · rintro c ⟨⟩
        decide
  obtain ⟨hpath, hfile⟩ := path_kept_iff "logs/my app.log" " FILE://logs/my app.log\n" "FILE".toList
    "logs/my app.log".toList
  obtain ⟨halone, -, hshown⟩ := hpath (by decide) htrimmed (by decide)
  exact ⟨halone, hshown.mpr (by decide), (hfile (by decide) (by decide)).1.mpr (by decide)⟩

/-- A path whose first name merely begins with that of the own host loses it in its shown form. -/
theorem not_kept_hostPrefix :
    parse "localhost.log" = .ok (ofPath "localhost.log") ∧
      (ofPath "localhost.log").redacted = "file://localhost.log" ∧
      parse "file://localhost.log" = .ok (ofPath ".log") := by
  decide

end LogIntake.Uri
