import LogIntake.Proofs.Template.Columns
import LogIntake.Proofs.Timestamp.Gaps
import LogIntake.Record.Decoder

/-!
# Written lines are read back

* `WrittenLine`: what a line holds after its timestamp, `WrittenLine.IsFit`: when it can be told apart.
* `WrittenLine.captures`: its fields, from a timestamp that may have taken more or less of the gap
  after it.
* `WrittenLine.event`: the event that the line reports.
* **`decode_written`**: a decoder reads this event from the line.
-/

namespace LogIntake

open Calendar Template

/-- The property that a column tells, if it tells one. -/
def Template.Column.property? (c : Column) : Option (String × String) :=
  match c.field with
  | .prop key => some (key, c.value)
  | _ => none

/-- A line behind its timestamp: dividers, columns and the message. -/
structure WrittenLine where
  lead : List Divider
  columns : List Column
  message : String
deriving DecidableEq, Repr

namespace WrittenLine

/-- The tokens of the line behind its timestamp. -/
def laterTokens (line : WrittenLine) : List Token :=
  line.lead.map Divider.token ++ (line.columns.flatMap Column.tokens ++ [.field .message])

/-- The tokens of a template for the line. -/
def tokens (line : WrittenLine) : List Token :=
  .field .timestamp :: line.laterTokens

/-- The parts of the line behind its timestamp. -/
def laterParts (line : WrittenLine) : List (List Char) :=
  line.lead.map Divider.text ++ (line.columns.flatMap Column.parts ++ [line.message.toList])

/-- The line with a timestamp. -/
def text (line : WrittenLine) (timestamp : List Char) : String :=
  String.ofList (timestamp ++ line.laterParts.flatten)

/-- All dividers of the line. -/
def dividers (line : WrittenLine) : List Divider :=
  line.lead ++ line.columns.flatMap Column.separator

/-- The line begins with a gap, its columns have different fields, and every value fits between what
stands around it. -/
structure IsFit (line : WrittenLine) : Prop where
  lead : ∃ blanks later, line.lead = .gap blanks :: later
  written : ∀ d ∈ line.lead, d.IsWritten
  columns : ∀ c ∈ line.columns, c.IsFit
  distinct : (line.columns.map Column.field).Nodup
  message : IsMessageAfter line.dividers line.message

/-- The value of a field, if the line has one. -/
def value? (line : WrittenLine) (f : Field) : Option String :=
  (line.columns.find? (·.field = f)).map Column.value

/-- The properties of the line. -/
def properties (line : WrittenLine) : Properties :=
  .ofList (line.columns.filterMap Column.property?)

/-- The event that a line reports. -/
def event (line : WrittenLine) (source : String) (receivedAt timestamp : Int) (raw : String) :
    Event where
  timestamp := some timestamp
  receivedAt
  source
  logger := ((line.value? .logger).or (line.value? .className)).getD "Unknown"
  level := (line.value? .level).getD "DEBUG"
  thread := line.value? .thread
  location :=
    { file := line.value? .file
      className := line.value? .className
      method := line.value? .method
      line := line.value? .line }
  message := line.message
  ndc := line.value? .ndc
  properties := line.properties
  throwable := []
  raw

/-! ## The cut of a line -/

variable {line : WrittenLine} {timestampShape : Option Shape}

/-- Behind the timestamp a line has no choice, and a gap comes first. -/
theorem IsFit.forces (h : line.IsFit) (timestampShape : Option Shape)
    (hproper : ∀ token ∈ line.tokens, token.IsProper) (hapart : line.tokens.IsChain Token.Apart) :
    Shape.Forces (line.laterTokens.flatMap (Token.shape timestampShape)) line.laterParts := by
  have hlater : line.tokens = [Token.field .timestamp] ++ ((line.lead.map Divider.token ++
      line.columns.flatMap Column.tokens) ++ [Token.field .message]) := by
    rw [List.append_assoc]
    rfl
  refine forces_columns timestampShape h.written h.columns h.message (fun token htoken => ?_) ?_
  · exact hproper token (by rw [hlater]; exact List.mem_append_right _ (List.mem_append_left _ htoken))
  · rw [hlater] at hapart
    exact (List.isChain_append.mp (List.isChain_append.mp hapart).2.1).1

/-- Where a gap of a line has been cut at another place, the rest of the gap is a gap again. -/
theorem gap_of_cut {blanks more rest left : List Char} (hmore : ∀ c ∈ more, Text.isGap c = true)
    (hblanks : IsGapText blanks) (hrest : ∀ c ∈ rest.head?, Text.isGap c = false)
    (hleft : ∃ c ∈ left.head?, Text.isGap c = true)
    (h : left = more ++ (blanks ++ rest) ∨ blanks ++ rest = more ++ left) :
    ∃ remaining, left = remaining ++ rest ∧ IsGapText remaining := by
  obtain ⟨c, hc, hgap⟩ := hleft
  rcases h with rfl | h
  · refine ⟨more ++ blanks, (List.append_assoc _ _ _).symm, ?_, ?_⟩
    · exact fun hnil => hblanks.1 (List.append_eq_nil_iff.mp hnil).2
    · exact List.forall_mem_append.mpr ⟨hmore, hblanks.2⟩
  · rcases List.append_eq_append_iff.mp h with ⟨more', rfl, rfl⟩ | ⟨remaining, rfl, rfl⟩
    · -- the cut would lie behind the gap
      cases more' with
      | nil =>
        have := hrest c hc
        rw [hgap] at this
        exact absurd this (by decide)
      | cons d more' =>
        have := hrest d rfl
        rw [hmore d (by simp)] at this
        exact absurd this (by decide)
    · refine ⟨remaining, rfl, ?_, fun d hd => hblanks.2 d (List.mem_append_right _ hd)⟩
      rintro rfl
      have := hrest c hc
      rw [hgap] at this
      exact absurd this (by decide)

/-- A timestamp stands before a rest that is forced and begins with a gap: the cut takes a timestamp that
may have more or less of this gap, and the rest as it is written. -/
theorem exists_cut {format : Timestamp.Format} {shape : Shape} {blanks : List Char}
    {pieces parts : List (List Char)}
    (hforces : Shape.Forces (.run .gap true .longest :: shape) (blanks :: parts))
    (hpieces : List.Forall₂ Timestamp.Token.Stands format.tokens pieces) :
    ∃ found remaining,
      Shape.cut? (format.shape ++ .run .gap true .longest :: shape)
        (pieces.flatten ++ (blanks :: parts).flatten) = some found ∧
      Text.trim (found.take format.shape.length).flatten = Text.trim pieces.flatten ∧
      found.drop format.shape.length = remaining :: parts := by
  obtain ⟨hfits, hstops, hrest⟩ := forces_long_iff.mp hforces
  have hblanks : IsGapText blanks := fits_nonempty_iff.mp hfits
  -- there is a cut, and the timestamp of the preferred one has the gaps of the written one
  have hcovers : Shape.Covers (format.shape ++ .run .gap true .longest :: shape)
      (pieces.flatten ++ (blanks :: parts).flatten) :=
    covers_append_iff.mpr ⟨_, _, rfl,
      (TimestampParser.covers_iff (.absolute format)).mpr ⟨pieces, rfl, hpieces⟩,
      _, hforces.isPreferred.1⟩
  obtain ⟨found, hfound⟩ := Option.isSome_iff_exists.mp ((Shape.isSome_cut?_iff _ _).mpr hcovers)
  have hpreferred := Shape.isPreferred_cut? (format.shape ++ .run .gap true .longest :: shape)
    (pieces.flatten ++ (blanks :: parts).flatten)
  rw [hfound] at hpreferred
  obtain ⟨taken, left, hsplit, htaken, hleft⟩ := hpreferred.append
  obtain ⟨pieces', rfl, hpieces'⟩ := (TimestampParser.covers_iff (.absolute format)).mp ⟨_, htaken⟩
  have hgaps := Timestamp.sameGaps_of_stands hpieces' hpieces
  rw [List.flatten_cons] at hsplit
  have hsolid : (Piece.run .gap true .longest).IsSolid := rfl
  have hleftGap : ∀ c ∈ left.head?, Text.isGap c = true := by
    intro c hc
    obtain ⟨more, rfl⟩ := List.head?_eq_some_iff.mp hc
    exact Shape.Covers.opens hsolid ⟨_, hleft.1⟩
  have hwrittenGap : ∀ c ∈ (blanks ++ parts.flatten).head?, Text.isGap c = true := by
    intro c hc
    obtain ⟨d, blanks, rfl⟩ := List.exists_cons_of_ne_nil hblanks.1
    obtain rfl : d = c := by simpa using hc
    exact hblanks.2 d List.mem_cons_self
  obtain ⟨htrim, more, hmore, hcase⟩ := Timestamp.ends_alike hgaps hsplit.symm hleftGap hwrittenGap
  have hleftNe : left ≠ [] := Shape.Covers.ne_nil hsolid ⟨_, hleft.1⟩
  obtain ⟨first, behind, hfirst⟩ := List.exists_cons_of_ne_nil hleftNe
  obtain ⟨remaining, rfl, hremaining⟩ := gap_of_cut hmore hblanks hstops
    ⟨first, by rw [hfirst]; rfl, hleftGap first (by rw [hfirst]; rfl)⟩ hcase
  -- so behind the timestamp the cut is the forced one
  have hforced : Shape.Forces (.run .gap true .longest :: shape) (remaining :: parts) :=
    .long (fits_nonempty_iff.mpr hremaining) hstops hrest
  refine ⟨found, remaining, hfound, ?_, hleft.unique hforced.isPreferred⟩
  rw [htaken.flatten]
  exact htrim

/-- The values of the columns and the message. -/
def laterCaptures (line : WrittenLine) : Captures :=
  line.columns.map (fun c => (c.field, c.value)) ++ [(.message, line.message)]

/-- **A line is cut at its timestamp, which may take more or less of the gap after it, and at its
columns.** -/
theorem IsFit.captures?_eq (h : line.IsFit) (template : Template) {format : Timestamp.Format}
    (htokens : template.tokens = line.tokens) (hshape : template.timestampShape = some format.shape)
    (hproper : ∀ token ∈ line.tokens, token.IsProper) (hapart : line.tokens.IsChain Token.Apart)
    {pieces : List (List Char)}
    (hpieces : List.Forall₂ Timestamp.Token.Stands format.tokens pieces) :
    ∃ taken, Text.trim taken = Text.trim pieces.flatten ∧
      template.captures? (line.text pieces.flatten) =
        some ((.timestamp, String.ofList taken) :: line.laterCaptures) := by
  obtain ⟨blanks, later, hlead⟩ := h.lead
  -- what stands behind the first gap
  generalize hparts : later.map Divider.text ++ (line.columns.flatMap Column.parts ++
    [line.message.toList]) = parts
  have hlaterParts : line.laterParts = blanks :: parts := by
    rw [← hparts, laterParts, hlead]
    rfl
  obtain ⟨shape, hlaterShape⟩ : ∃ shape : Shape, line.laterTokens.flatMap
      (Token.shape (some format.shape)) = .run .gap true .longest :: shape := by
    rw [laterTokens, hlead]
    exact ⟨_, rfl⟩
  have htemplate : template.shape = format.shape ++ (.run .gap true .longest :: shape) := by
    rw [Template.shape, hshape, htokens, ← hlaterShape]
    rfl
  have hforces := h.forces (some format.shape) hproper hapart
  rw [hlaterShape, hlaterParts] at hforces
  obtain ⟨found, remaining, hfound, htrim, hdrop⟩ := exists_cut hforces hpieces
  rw [← hlaterParts, ← htemplate] at hfound
  have hcaptures : captureParts (some format.shape) line.laterTokens (remaining :: parts) =
      line.laterCaptures := by
    have hdividers := captureParts_dividers (some format.shape) (.gap remaining :: later)
      (line.columns.flatMap Column.tokens ++ [.field .message])
      (line.columns.flatMap Column.parts ++ [line.message.toList])
    rw [captureParts_columns _ h.columns] at hdividers
    rw [laterTokens, hlead, ← hparts]
    exact hdividers
  refine ⟨_, htrim, ?_⟩
  rw [Template.captures?, text, String.toList_ofList, hfound, Option.map_some, hshape, htokens, tokens,
    captureParts]
  change some ((Field.timestamp, String.ofList (found.take format.shape.length).flatten) ::
    captureParts (some format.shape) line.laterTokens (found.drop format.shape.length)) = _
  rw [hdrop, hcaptures]

/-! ## Reading the template -/

theorem firstRepeated_eq_none_of_nodup {seen fields : List Field} (h : fields.Nodup)
    (hseen : ∀ f ∈ fields, f ∉ seen) : firstRepeated seen fields = none := by
  induction fields generalizing seen with
  | nil => rfl
  | cons f fields ih =>
    obtain ⟨hf, hnodup⟩ := List.nodup_cons.mp h
    obtain ⟨hfirst, hlater⟩ := List.forall_mem_cons.mp hseen
    rw [firstRepeated, if_neg (by simpa using hfirst)]
    refine ih hnodup fun g hg => ?_
    rw [List.mem_cons]
    rintro (rfl | hmem)
    · exact hf hg
    · exact hlater g hg hmem

theorem filterMap_field?_dividers (dividers : List Divider) :
    (dividers.map Divider.token).filterMap Token.field? = [] := by
  rw [List.filterMap_eq_nil_iff]
  rintro token htoken
  obtain ⟨d, _, rfl⟩ := List.mem_map.mp htoken
  cases d <;> rfl

/-- The fields of a template for a line. -/
theorem fields_tokens (line : WrittenLine) : line.tokens.filterMap Token.field? =
    .timestamp :: (line.columns.map Column.field ++ [.message]) := by
  have hcolumns : (line.columns.flatMap Column.tokens).filterMap Token.field? =
      line.columns.map Column.field := by
    induction line.columns with
    | nil => rfl
    | cons c columns ih =>
      rw [List.flatMap_cons, List.filterMap_append, ih, List.map_cons]
      change (c.field :: (c.separator.map Divider.token).filterMap Token.field?) ++ _ = _
      rw [filterMap_field?_dividers]
      rfl
  change Field.timestamp :: line.laterTokens.filterMap Token.field? = _
  rw [laterTokens, List.filterMap_append, filterMap_field?_dividers, List.filterMap_append, hcolumns]
  rfl

theorem IsFit.field_ne (h : line.IsFit) {f : Field} (hf : f ∈ line.columns.map Column.field) :
    f ≠ .timestamp ∧ f ≠ .message := by
  obtain ⟨c, hc, rfl⟩ := List.mem_map.mp hf
  exact ⟨(h.columns c hc).field.1, (h.columns c hc).field.2.2⟩

/-- A template for a line that can be told apart is accepted. -/
theorem IsFit.compile_eq (h : line.IsFit) {template : String}
    (htokens : tokenize template.toList = .ok line.tokens) :
    Template.compile template timestampShape = .ok ⟨template, line.tokens, timestampShape⟩ := by
  have hblank : ¬ Text.isAllBlank template.toList = true := by
    rw [isAllBlank_eq_false htokens (f := .timestamp) (.head _)]
    exact Bool.false_ne_true
  have hnodup : (Field.timestamp :: (line.columns.map Column.field ++ [.message])).Nodup := by
    refine List.nodup_cons.mpr ⟨fun hmem => ?_, List.nodup_append.mpr
      ⟨h.distinct, List.nodup_cons.mpr ⟨List.not_mem_nil, .nil⟩, fun f hf g hg => ?_⟩⟩
    · rcases List.mem_append.mp hmem with hmem | hmem
      · exact (h.field_ne hmem).1 rfl
      · exact absurd hmem (by simp)
    · obtain rfl := List.mem_singleton.mp hg
      exact (h.field_ne hf).2
  have hcheck : checkFields (line.tokens.filterMap Token.field?) = .ok () := by
    rw [fields_tokens, checkFields, if_neg (by simp),
      firstRepeated_eq_none_of_nodup hnodup fun f _ => List.not_mem_nil]
    rw [← List.cons_append, List.dropLast_concat]
    refine if_neg ?_
    rw [List.contains_iff_mem, List.mem_cons]
    rintro (heq | hmem)
    · exact absurd heq (by decide)
    · exact (h.field_ne hmem).2 rfl
  simp only [Template.compile, if_neg hblank, htokens, hcheck, bind, Except.bind, pure, Except.pure]

/-! ## The event -/

theorem get?_columns (columns : List Column) (f : Field) (more : Captures) :
    Captures.get? (columns.map (fun c => (c.field, c.value)) ++ more) f =
      ((columns.find? (·.field = f)).map Column.value).or (more.get? f) := by
  induction columns with
  | nil => rfl
  | cons c columns ih =>
    rw [List.map_cons, List.cons_append, Captures.get?, List.lookup_cons, List.find?_cons]
    by_cases hf : f = c.field
    · simp [hf]
    · rw [beq_false_of_ne hf, decide_eq_false (Ne.symm hf)]
      exact ih

/-- The record of a line, from its captures. -/
theorem IsFit.record_fields (h : line.IsFit) (taken : String) (raw : String) :
    (Record.ofCaptures ((.timestamp, taken) :: line.laterCaptures) raw).fields =
      (.timestamp, taken) :: line.columns.map (fun c => (c.field, c.value)) := by
  have hcolumns : (line.columns.map fun c => (c.field, c.value)).filter (·.1 ≠ .message) =
      line.columns.map fun c => (c.field, c.value) := by
    rw [List.filter_eq_self]
    intro entry hentry
    obtain ⟨c, hc, rfl⟩ := List.mem_map.mp hentry
    exact decide_eq_true (h.columns c hc).field.2.2
  unfold Record.ofCaptures laterCaptures
  rw [List.filter_cons_of_pos (by simp), List.filter_append, hcolumns, List.filter_cons_of_neg (by simp),
    List.filter_nil, List.append_nil]

theorem IsFit.record_message (h : line.IsFit) (taken raw : String) :
    (Record.ofCaptures ((.timestamp, taken) :: line.laterCaptures) raw).message = line.message := by
  have hnone : line.columns.find? (·.field = .message) = none := by
    rw [List.find?_eq_none]
    intro c hc
    simpa using (h.columns c hc).field.2.2
  have hget : Captures.get? ((.timestamp, taken) :: line.laterCaptures) .message =
      some line.message := by
    change Captures.get? line.laterCaptures .message = _
    rw [laterCaptures, get?_columns, hnone]
    rfl
  rw [Record.ofCaptures, hget, Option.getD_some]

/-- The event of the record of a line. -/
theorem IsFit.eventOf_eq (h : line.IsFit) (source : String) (receivedAt timestamp : Int)
    (taken raw : String) :
    Decoder.eventOf source receivedAt (some timestamp)
      (Record.ofCaptures ((.timestamp, taken) :: line.laterCaptures) raw) =
        line.event source receivedAt timestamp raw := by
  have hget : ∀ f, f ≠ .timestamp → Captures.get?
      ((.timestamp, taken) :: line.columns.map (fun c => (c.field, c.value))) f = line.value? f := by
    intro f hf
    have hcolumns := get?_columns line.columns f []
    rw [List.append_nil] at hcolumns
    rw [Captures.get?, List.lookup_cons, beq_false_of_ne hf]
    exact hcolumns.trans (Option.or_none ..)
  have hproperties : Decoder.propertiesOf
      ((.timestamp, taken) :: line.columns.map (fun c => (c.field, c.value))) = line.properties := by
    unfold Decoder.propertiesOf properties
    rw [List.filterMap_cons_none rfl, List.filterMap_map]
    refine congrArg Properties.ofList (List.filterMap_congr fun c _ => ?_)
    obtain ⟨field, value, separator⟩ := c
    cases field <;> rfl
  have hlevel : ((line.value? .level).filter (· ≠ "")) = line.value? .level := by
    unfold value?
    cases hfind : line.columns.find? (·.field = .level) with
    | none => rfl
    | some c =>
      have hne := (h.columns c (List.mem_of_find?_eq_some hfind)).nonempty
      simp [hne]
  unfold Decoder.eventOf event
  simp only [h.record_fields, h.record_message, hproperties]
  rw [hget .logger (by decide), hget .className (by decide), hget .level (by decide),
    hget .thread (by decide), hget .file (by decide), hget .method (by decide), hget .line (by decide),
    hget .ndc (by decide), hlevel]
  rfl

/-- A line with a timestamp that is not white space alone is no blank line. -/
theorem isAllBlank_text {timestamp : List Char} {c : Char} (hc : Text.isBlank c = false)
    (h : c ∈ timestamp) : ¬ Text.isAllBlank (line.text timestamp).toList = true := by
  rw [text, String.toList_ofList, Text.isAllBlank, List.all_eq_true]
  intro hall
  have := hall c (List.mem_append_left _ h)
  rw [hc] at this
  exact absurd this (by decide)

end WrittenLine

/-- A pattern with a small letter does not ask for relative times. -/
theorem TimestampParser.compile_eq {pattern : String} {format : Timestamp.Format}
    (h : Timestamp.Format.compile pattern = .ok format) (hd : 'd' ∈ pattern.toList) :
    TimestampParser.compile pattern = .ok (.absolute format) := by
  have hrelative : ¬ Text.trim pattern.toList = relativePattern.toList := by
    intro heq
    have hmem := Text.mem_trim (by decide) hd
    rw [heq] at hmem
    exact absurd hmem (by decide)
  rw [TimestampParser.compile, if_neg hrelative, h]
  rfl

/-- A decoder takes a line whose captures are known and hands out its event at the end. -/
theorem Decoder.decode_flush_eq {d : Decoder} {s : Surroundings} {text : String}
    {captures : Captures} {format : Timestamp.Format} {timestamp : String} {millis : Int}
    (hd : d.assembler.pending = none) (hformat : d.timestamp = .absolute format)
    (hblank : ¬ Text.isAllBlank text.toList = true)
    (hcaptures : d.assembler.template.captures? text = some captures)
    (htimestamp : (Record.ofCaptures captures text).fields.get? .timestamp = some timestamp)
    (hparse : format.parse s.almanac timestamp = .ok millis) :
    (d.decode s text).1 ++ ((d.decode s text).2.flush s).1 =
      [eventOf d.source (s.receipt d.count) (some millis) (Record.ofCaptures captures text)] := by
  have hfeed : d.assembler.feed text =
      (none, { d.assembler with pending := some (Record.ofCaptures captures text) }) := by
    rw [Assembler.feed, if_neg hblank, hcaptures, hd]
  have hdecode : d.decode s text = ([], { d with assembler :=
      { d.assembler with pending := some (Record.ofCaptures captures text) } }) := by
    rw [decode, hfeed]
    rfl
  rw [hdecode, List.nil_append]
  simp only [flush, Assembler.flush, emit, resolveTime, htimestamp, hformat, TimestampParser.parseAt,
    hparse]
  rfl

/-- **A written line is read back**: the decoder is made, and the line gives one event, with the instant
of the timestamp and the value of every column. -/
theorem decode_written {pattern template : String} {tokens : List Timestamp.Token}
    {line : WrittenLine} (hspells : Timestamp.Spells tokens pattern.toList)
    (hletters : (Timestamp.letters tokens).Perm ['y', 'M', 'd', 'H', 'm', 's', 'S'])
    (hyear : .letters 'y' 2 ∉ tokens) (htemplate : tokenize template.toList = .ok line.tokens)
    (hline : line.IsFit) (source : String) (keep : Bool) :
    ∃ d, Decoder.new source template pattern keep = .ok d ∧
      ∀ t : DateTime, t.IsCivil → 0 ≤ t.date.year → t.date.year ≤ 9999 →
      ∀ surroundings : Surroundings, surroundings.almanac.zone = .utc →
        let text := line.text (Timestamp.write t tokens)
        (d.decode surroundings text).1 ++ ((d.decode surroundings text).2.flush surroundings).1 =
          [line.event source (surroundings.receipt 0) (t.seconds * 1000 + t.nanosecond / 1000000)
            text] := by
  have hcomplete : Timestamp.IsComplete tokens :=
    ⟨['H'], by decide, [], by decide, hletters.trans (by decide)⟩
  have hd : 'd' ∈ Timestamp.letters tokens := hcomplete.mem_letters 'd' (by decide)
  obtain ⟨hproper, hapart⟩ := tokenize_spec htemplate
  obtain ⟨steps, hsteps, hcompile⟩ := hcomplete.exists_compile hspells
  generalize hformat : (⟨pattern, tokens, steps.flatten⟩ : Timestamp.Format) = format at hcompile
  have htokens : format.tokens = tokens := by rw [← hformat]
  have hnew : Decoder.new source template pattern keep = .ok
      { source, timestamp := .absolute format,
        assembler := { template := ⟨template, line.tokens, some format.shape⟩, keepUnmatched := keep } } := by
    rw [Decoder.new, TimestampParser.compile_eq hcompile (hspells.mem hd)]
    simp only [Except.mapError, bind, Except.bind, pure, Except.pure, TimestampParser.shape,
      hline.compile_eq htemplate]
  refine ⟨_, hnew, fun t hcivil hfirst hlast surroundings hzone => ?_⟩
  have hwritable : Timestamp.IsWritable t := ⟨hcivil, hfirst, hlast⟩
  have hstands := Timestamp.stands_write hwritable
    fun letter hletter => hcomplete.mem_writtenLetters hletter
  have hwrite : (tokens.map (Timestamp.Token.write t)).flatten = Timestamp.write t tokens :=
    List.flatMap_def.symm
  obtain ⟨taken, htrim, hcaptures⟩ := hline.captures?_eq
    ⟨template, line.tokens, some format.shape⟩ rfl rfl hproper hapart (by rw [htokens]; exact hstands)
  rw [hwrite] at htrim hcaptures
  have htext : Text.trim (String.ofList taken).toList = Text.trim (Timestamp.write t tokens) := by
    rw [String.toList_ofList, htrim]
  have hparse := hcomplete.parse_eq pattern hsteps hwritable (fun h => absurd h hyear) hzone htext
  rw [hformat] at hparse
  have hblank : ¬ Text.isAllBlank (line.text (Timestamp.write t tokens)).toList = true := by
    obtain ⟨count, hmem⟩ := Timestamp.mem_letters_iff.mp hd
    have hsolid : Timestamp.IsSolid (Timestamp.writeLetters t count 'd') :=
      hwritable.isSolid_writeLetters count (by decide)
    obtain ⟨c, later, hc⟩ := List.exists_cons_of_ne_nil hsolid.1
    have hday : c ∈ Timestamp.writeLetters t count 'd' := by rw [hc]; exact .head _
    exact WrittenLine.isAllBlank_text (hsolid.2 c hday)
      (List.mem_flatMap.mpr ⟨.letters 'd' count, hmem, hday⟩)
  dsimp only
  rw [Decoder.decode_flush_eq rfl rfl hblank hcaptures (by rw [hline.record_fields]; rfl) hparse,
    hline.eventOf_eq]

/-- The tokens of a pattern with the name of a month and a word in quotes. -/
def quotedTokens : List Timestamp.Token :=
  [.letters 'd' 2, .literal ['.'], .letters 'M' 3, .literal [' '], .letters 'y' 4,
    .literal [' ', 'u', 'm', ' '], .letters 'H' 2, .literal [':'], .letters 'm' 2, .literal [':'],
    .letters 's' 2, .literal ['.'], .letters 'S' 6]

/-- A line with gaps of several widths and a property. -/
def upLine : WrittenLine where
  lead := [.gap [' ', '\t'], .literal ['[']]
  columns :=
    [⟨.thread, "main 1", [.literal [']'], .gap [' ']]⟩, ⟨.level, "WARN", [.gap [' ', ' ']]⟩,
      ⟨.logger, "app.Main", [.literal [':'], .gap [' ']]⟩,
      ⟨.prop "user", "bob", [.gap [' '], .literal ['-'], .gap [' ']]⟩]
  message := "it: [is] - up"

theorem isFit_upLine : upLine.IsFit where
  lead := ⟨_, _, rfl⟩
  written := by decide
  columns := by decide
  distinct := by decide
  message := ⟨by decide, by simp [upLine, Text.isGap]⟩

/-- The line is read back with its timestamp, whose fraction goes beyond milliseconds. -/
theorem decode_written_upLine :
    ∃ d, Decoder.new "tail" "TIMESTAMP [THREAD] LEVEL LOGGER: PROP(user) - MESSAGE"
        "dd.MMM yyyy 'um' HH:mm:ss.SSSSSS" true = .ok d ∧
      let text := "29.Feb 2024 um 23:59:58.123456 \t[main 1] WARN  app.Main: bob - it: [is] - up"
      let surroundings : Surroundings := ⟨⟨.utc, 2024⟩, fun n => 1000 + n⟩
      (d.decode surroundings text).1 ++ ((d.decode surroundings text).2.flush surroundings).1 =
        [{ timestamp := some 1709251198123, receivedAt := 1000, source := "tail",
           logger := "app.Main", level := "WARN", thread := some "main 1",
           message := "it: [is] - up", properties := [("user", "bob")], raw := text }] := by
  have hspells : Timestamp.Spells quotedTokens "dd.MMM yyyy 'um' HH:mm:ss.SSSSSS".toList :=
    Timestamp.tokenize_eq_ok_iff.mp rfl
  have htemplate : tokenize "TIMESTAMP [THREAD] LEVEL LOGGER: PROP(user) - MESSAGE".toList =
      .ok upLine.tokens := rfl
  obtain ⟨d, hnew, hevents⟩ :=
    decode_written hspells (by decide) (by decide) htemplate isFit_upLine "tail" true
  have htext : upLine.text (Timestamp.write ⟨⟨2024, 2, 29⟩, 23, 59, 58, 123456000⟩ quotedTokens) =
      "29.Feb 2024 um 23:59:58.123456 \t[main 1] WARN  app.Main: bob - it: [is] - up" := by
    decide +kernel
  have hread := hevents ⟨⟨2024, 2, 29⟩, 23, 59, 58, 123456000⟩ (by decide) (by decide) (by decide)
    ⟨⟨.utc, 2024⟩, fun n => 1000 + n⟩ rfl
  dsimp only at hread ⊢
  rw [htext] at hread
  refine ⟨d, hnew, hread.trans ?_⟩
  decide +kernel

end LogIntake
