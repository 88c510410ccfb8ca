import LogIntake.Proofs.Record.Grouping
import LogIntake.Proofs.Template.Language
import LogIntake.Proofs.Text.CharClass
import LogIntake.Proofs.Text.Trim
import LogIntake.Record.Decoder

/-!
# Relative times

* `offsetOf?`: the offset that a text of decimal digits tells, `int64?_eq_offsetOf?`: it is the number of
  64 bits that the text is.
* `RelativeClock.resolve_digits`: the time of such a text, and what becomes of the anchor.
* `Record.Fits`: a record has the fields of the template, or none. `Assembler.recordsOver_fit`: all that
  are handed out do.
* `Decoder.Counts`: the clock by which a decoder tells offsets; `Decoder.Counts.resolveTime`: what one
  record does to it.
* `Decoder.Counts.events_eq`: the events of a decoder that counts by a clock, by induction over the calls.
* **`events_of_offsets`**: all offsets count from the receipt of the first record that has one.
-/

namespace LogIntake

/-! ## Texts of offsets -/

/-- The offset that a text of decimal digits tells: they are all among the ten digits `0` to `9`, and
their number fits into 64 bits. -/
def offsetOf? (text : String) : Option Int :=
  if text.toList.all Text.isAsciiDigit ∧ (Timestamp.digitsValue text.toList : Int) ≤ greatestInt64 then
    some (Timestamp.digitsValue text.toList)
  else none

theorem int64?_eq_offsetOf? {text : String} (h : IsDigitText text.toList) :
    int64? text.toList = offsetOf? text := by
  obtain ⟨hne, hdigits⟩ := h
  unfold offsetOf?
  generalize text.toList = s at hne hdigits
  obtain ⟨c, rest, rfl⟩ := List.exists_cons_of_ne_nil hne
  -- a decimal digit is no sign
  have hunsigned : ∀ d : Char, Text.isDecimalDigit d = false → c ≠ d := by
    rintro d hd rfl
    exact absurd (hdigits c List.mem_cons_self) (by rw [hd]; decide)
  have hleast : leastInt64 ≤ (Timestamp.digitsValue (c :: rest) : Int) := by
    unfold leastInt64
    omega
  unfold int64?
  split
  next factor digits heq =>
  split at heq
  · next hminus => exact absurd (List.cons.inj hminus).1 (hunsigned '-' (by decide))
  · next hplus => exact absurd (List.cons.inj hplus).1 (hunsigned '+' (by decide))
  · obtain ⟨rfl, rfl⟩ := Prod.mk.inj heq
    cases (c :: rest).all Text.isAsciiDigit with
    | true => simp [hleast]
    | false => simp

/-- The nearest number of 64 bits. -/
def saturate (n : Int) : Int :=
  max leastInt64 (min greatestInt64 n)

/-- **The time of a text of decimal digits.** One that is an offset is told from the anchor, which is its
own receipt if there is no anchor yet. One that is none has no time and leaves the clock as it was. -/
theorem RelativeClock.resolve_digits (clock : RelativeClock) {text : String}
    (h : IsDigitText text.toList) (receivedAt : Int) :
    (clock.resolve text receivedAt).1.toOption =
        (offsetOf? text).map (fun offset => saturate (clock.anchor.getD receivedAt + offset)) ∧
      (clock.resolve text receivedAt).2.anchor =
        if (offsetOf? text).isSome then some (clock.anchor.getD receivedAt) else clock.anchor := by
  have hblank : ∀ c ∈ text.toList, Text.isBlank c = false := fun c hc =>
    Text.isBlank_of_isDecimalDigit (h.2 c hc)
  have htrim : Text.trim text.toList = text.toList :=
    Text.trim_eq_self ⟨fun c hc => hblank c (List.mem_of_mem_head? hc),
      fun c hc => hblank c (List.mem_of_mem_getLast? hc)⟩
  rw [resolve, htrim, int64?_eq_offsetOf? h]
  cases offsetOf? text with
  | none => exact ⟨rfl, rfl⟩
  | some offset => exact ⟨rfl, rfl⟩

/-! ## Records and their offsets -/

/-- The offset that a record tells in one of its fields. -/
def Record.offset? (field : Field) (record : Record) : Option Int :=
  (record.fields.get? field).bind offsetOf?

/-- The fields of a record are what its first line has captured, or none if it does not follow the
template. -/
def Record.Fits (template : Template) (record : Record) : Prop :=
  record.unparsed = true ∧ record.fields = [] ∨
    record.unparsed = false ∧ ∃ line captures, template.captures? line = some captures ∧
      record.fields = captures.filter (·.1 ≠ .message)

theorem Captures.get?_filter_message (captures : Captures) {f : Field} (hf : f ≠ .message) :
    Captures.get? (captures.filter (·.1 ≠ .message)) f = captures.get? f := by
  induction captures with
  | nil => rfl
  | cons entry captures ih =>
    by_cases hentry : entry.1 = .message
    · have hne : (f == entry.1) = false := beq_false_of_ne (by rwa [hentry])
      rw [List.filter_cons_of_neg (by simp [hentry]), Captures.get?, Captures.get?, List.lookup_cons, hne]
      exact ih
    · rw [List.filter_cons_of_pos (by simp [hentry]), Captures.get?, Captures.get?, List.lookup_cons,
        List.lookup_cons]
      split
      · rfl
      · exact ih

/-- The captures of a line are those of the fields of the template, and each is a piece that its field
stands for. -/
theorem Template.captures?_stands (timestamp : Option TimestampParser) {text line : String}
    {template : Template} {captures : Captures}
    (h : Template.compile text (timestamp.map TimestampParser.shape) = .ok template)
    (hcaptures : template.captures? line = some captures) :
    captures.map Prod.fst = template.fields ∧
      ∀ f value, captures.get? f = some value → f.Stands timestamp value.toList := by
  obtain ⟨-, hshape, hcheck⟩ := compile_ok h
  obtain ⟨parts, hparts, rfl⟩ := Option.map_eq_some_iff.mp hcaptures
  have hcut := template.shape.isPreferred_cut? line.toList
  rw [hparts] at hcut
  obtain ⟨pieces, hline, hcovers, hcaptured⟩ := captureParts_eq hcut.1
  have hfields := captured_fields hcovers
  have hmade := (isMadeOf_iff hshape).mpr ⟨hline, hcovers⟩
  rw [hcaptured]
  refine ⟨hfields, fun f value hvalue => ?_⟩
  have hnodup := (checkFields_ok hcheck).2.1
  rw [get?_eq_some_iff (by rw [hfields]; exact hnodup), mem_captured_iff] at hvalue
  exact (List.forall₂_iff_zip.mp hmade.stands).2 hvalue

namespace Record.Fits

variable {template : Template} {record : Record} {f : Field}

theorem get?_eq_none (h : record.Fits template) (timestamp : Option TimestampParser) {text : String}
    (htemplate : Template.compile text (timestamp.map TimestampParser.shape) = .ok template) (hf : f ∉ template.fields) : record.fields.get? f = none := by
  rcases h with ⟨-, hfields⟩ | ⟨-, line, captures, hcaptures, hfields⟩
  · rw [hfields]
    rfl
  · rw [hfields, Captures.get?, List.lookup_eq_none_iff]
    intro entry hentry
    rw [← (Template.captures?_stands timestamp htemplate hcaptures).1] at hf
    rw [bne_iff_ne]
    rintro rfl
    exact hf (List.mem_map_of_mem (List.mem_of_mem_filter hentry))

/-- A record tells every field of the template but the message, unless its first line does not follow the
template. -/
theorem get?_eq_some (h : record.Fits template) (timestamp : Option TimestampParser) {text : String}
    (htemplate : Template.compile text (timestamp.map TimestampParser.shape) = .ok template) (hf : f ∈ template.fields) (hmessage : f ≠ .message) :
    record.unparsed = true ∧ record.fields = [] ∨
      record.unparsed = false ∧ ∃ value, record.fields.get? f = some value ∧
        f.Stands timestamp value.toList := by
  rcases h with hunparsed | ⟨hparsed, line, captures, hcaptures, hfields⟩
  · exact .inl hunparsed
  · obtain ⟨hkeys, hstands⟩ := Template.captures?_stands timestamp htemplate hcaptures
    rw [← hkeys] at hf
    obtain ⟨entry, hentry, rfl⟩ := List.mem_map.mp hf
    have hsome : (captures.get? entry.1).isSome = true :=
      List.lookup_isSome_iff.mpr ⟨entry, hentry, beq_self_eq_true _⟩
    obtain ⟨value, hvalue⟩ := Option.isSome_iff_exists.mp hsome
    refine .inr ⟨hparsed, value, ?_, hstands _ _ hvalue⟩
    rw [hfields, Captures.get?_filter_message captures hmessage, hvalue]

end Record.Fits

/-! ## Lines and ends of lines -/

/-- What a decoder is given: a line, or the end of the lines for now. -/
inductive Decoder.Call where
  | decode (line : String)
  | flush

namespace Assembler

/-- The record that a call hands out, and the assembler after it. -/
def take (a : Assembler) : Decoder.Call → Option Record × Assembler
  | .decode line => a.feed line
  | .flush => a.flush

def recordsOver (a : Assembler) : List Decoder.Call → List Record
  | [] => []
  | call :: calls => (a.take call).1.toList ++ (a.take call).2.recordsOver calls

/-- All records fit the template, those that are handed out and the pending one. -/
theorem take_fits {a : Assembler} (h : ∀ record ∈ a.pending, record.Fits a.template)
    (call : Decoder.Call) : (a.take call).2.template = a.template ∧
      (∀ record ∈ (a.take call).1, record.Fits a.template) ∧
      ∀ record ∈ (a.take call).2.pending, record.Fits a.template := by
  cases call with
  | flush => exact ⟨rfl, h, by simp [take, flush]⟩
  | decode line =>
    rw [take]
    cases hblank : Text.isAllBlank line.toList with
    | true =>
      rw [feed_blank hblank]
      exact ⟨rfl, by simp, h⟩
    | false =>
      cases hcaptures : a.template.captures? line with
      | some captures =>
        rw [feed_matched hblank hcaptures]
        refine ⟨rfl, h, fun record hrecord => ?_⟩
        obtain rfl : Record.ofCaptures captures line = record := Option.some.inj hrecord
        exact .inr ⟨rfl, line, captures, hcaptures, rfl⟩
      | none =>
        rw [feed_unmatched hblank hcaptures]
        refine ⟨rfl, by simp, fun record hrecord => ?_⟩
        cases hpending : a.pending with
        | some first =>
          rw [hpending] at hrecord
          obtain rfl : first.append line = record := Option.some.inj hrecord
          -- a further line changes neither the fields nor whether there are any
          exact h first hpending
        | none =>
          rw [hpending] at hrecord
          change record ∈ (if a.keepUnmatched then some (Record.ofUnmatched line) else none) at hrecord
          split at hrecord
          · obtain rfl : Record.ofUnmatched line = record := Option.some.inj hrecord
            exact .inl ⟨rfl, rfl⟩
          · exact absurd hrecord (by simp)

theorem recordsOver_fit {a : Assembler} (h : ∀ record ∈ a.pending, record.Fits a.template)
    (calls : List Decoder.Call) : ∀ record ∈ a.recordsOver calls, record.Fits a.template := by
  induction calls generalizing a with
  | nil => exact fun record hrecord => absurd hrecord List.not_mem_nil
  | cons call calls ih =>
    obtain ⟨htemplate, hhanded, hpending⟩ := take_fits h call
    rw [← htemplate] at hpending
    intro record hrecord
    rcases List.mem_append.mp hrecord with hrecord | hrecord
    · exact hhanded record (Option.mem_toList.mp hrecord)
    · rw [← htemplate]
      exact ih hpending record hrecord

end Assembler

namespace Decoder

variable (s : Surroundings) (d : Decoder)

/-- Takes a line or the end of the lines. -/
def take : Call → List Event × Decoder
  | .decode line => d.decode s line
  | .flush => d.flush s

/-- Takes lines and ends of lines one after the other. -/
def takeAll : Decoder → List Call → List Event × Decoder
  | d, [] => ([], d)
  | d, call :: calls =>
    let (events, d) := d.take s call
    let (later, d) := takeAll d calls
    (events ++ later, d)

theorem take_eq (call : Call) : d.take s call =
    ({ d with assembler := (d.assembler.take call).2 } : Decoder).emit s (d.assembler.take call).1 := by
  cases call <;> rfl

/-- The clock by which a decoder tells the offsets in a field of its records: the one of its timestamps,
or the one beside them if the template has no timestamp. -/
inductive Counts (d : Decoder) : Field → RelativeClock → Prop where
  | timestamp {clock : RelativeClock} : d.timestamp = .relative clock →
      .timestamp ∈ d.assembler.template.fields → Counts d .timestamp clock
  | relativeTime : .relativeTime ∈ d.assembler.template.fields →
      .timestamp ∉ d.assembler.template.fields → Counts d .relativeTime d.relative

variable {s d} {field : Field} {clock : RelativeClock}

/-- The time of a record that is received at a given time: its offset from the anchor, which is that of
the clock or its own receipt. -/
theorem Counts.resolveTime {parser : TimestampParser} {text : String} (hd : d.Counts field clock)
    (htemplate : Template.compile text (some parser.shape) = .ok d.assembler.template)
    (hdigits : ∀ piece, field.Stands (some parser) piece → IsDigitText piece)
    {record : Record} (hrecord : record.Fits d.assembler.template) (almanac : Calendar.Almanac)
    (receivedAt : Int) :
    ∃ timestamp relative clock',
      d.resolveTime almanac receivedAt record =
        ((record.offset? field).map fun offset => saturate (clock.anchor.getD receivedAt + offset),
          { d with timestamp, relative }) ∧
      ({ d with timestamp, relative } : Decoder).Counts field clock' ∧
      clock'.anchor = if (record.offset? field).isSome then some (clock.anchor.getD receivedAt)
        else clock.anchor := by
  cases hd with
  | timestamp htimestamp hfield =>
    rcases hrecord.get?_eq_some (some parser) htemplate hfield (by decide) with
      ⟨-, hnone⟩ | ⟨-, value, hvalue, hstands⟩
    · refine ⟨d.timestamp, d.relative, clock, ?_, .timestamp htimestamp hfield, ?_⟩
      · simp [Decoder.resolveTime, Record.offset?, hnone, Captures.get?]
      · simp [Record.offset?, hnone, Captures.get?]
    · obtain ⟨htime, hanchor⟩ := clock.resolve_digits (hdigits _ hstands) receivedAt
      refine ⟨.relative (clock.resolve value receivedAt).2, d.relative, _, ?_,
        .timestamp rfl hfield, ?_⟩
      · simp only [Decoder.resolveTime, hvalue, htimestamp, TimestampParser.parseAt, htime,
          Record.offset?, Option.bind_some]
      · rw [hanchor, Record.offset?, hvalue, Option.bind_some]
  | relativeTime hfield hother =>
    have hnone := hrecord.get?_eq_none (some parser) htemplate hother
    rcases hrecord.get?_eq_some (some parser) htemplate hfield (by decide) with
      ⟨-, hempty⟩ | ⟨-, value, hvalue, hstands⟩
    · refine ⟨d.timestamp, d.relative, d.relative, ?_, .relativeTime hfield hother, ?_⟩
      · simp [Decoder.resolveTime, Record.offset?, hempty, Captures.get?]
      · simp [Record.offset?, hempty, Captures.get?]
    · obtain ⟨htime, hanchor⟩ := d.relative.resolve_digits (hdigits _ hstands) receivedAt
      refine ⟨d.timestamp, (d.relative.resolve value receivedAt).2, _, ?_,
        .relativeTime hfield hother, ?_⟩
      · simp only [Decoder.resolveTime, hnone, hvalue, htime, Record.offset?, Option.bind_some]
      · rw [hanchor, Record.offset?, hvalue, Option.bind_some]

theorem Counts.congr {d' : Decoder} (h : d.Counts field clock) (htimestamp : d'.timestamp = d.timestamp)
    (hrelative : d'.relative = d.relative) (htemplate : d'.assembler.template = d.assembler.template) :
    d'.Counts field clock := by
  cases h with
  | timestamp hclock hfield => exact .timestamp (htimestamp.trans hclock) (htemplate ▸ hfield)
  | relativeTime hfield hother =>
    rw [← hrelative]
    exact .relativeTime (htemplate ▸ hfield) (htemplate ▸ hother)

/-- The anchor of records that are received at given times: the receipt of the first one with an offset. -/
def anchorOf (field : Field) (records : List Record) (receipt : Nat → Int) : Int :=
  receipt (records.findIdx fun record => (record.offset? field).isSome)

theorem anchorOf_cons (field : Field) (record : Record) (records : List Record) (receipt : Nat → Int) :
    anchorOf field (record :: records) receipt = if (record.offset? field).isSome then receipt 0
      else anchorOf field records fun k => receipt (k + 1) := by
  rw [anchorOf, List.findIdx_cons]
  cases (record.offset? field).isSome <;> rfl

/-- **The events of a decoder that counts by a clock**: every record becomes an event, and its time is its
offset from the anchor, which is that of the clock or else the receipt of the first record with an
offset. -/
theorem Counts.events_eq {parser : TimestampParser} {text : String} (hd : d.Counts field clock)
    (htemplate : Template.compile text (some parser.shape) = .ok d.assembler.template)
    (hdigits : ∀ piece, field.Stands (some parser) piece → IsDigitText piece)
    (hpending : ∀ record ∈ d.assembler.pending, record.Fits d.assembler.template) (calls : List Call) :
    (d.takeAll s calls).1 = (d.assembler.recordsOver calls).mapIdx fun k record =>
      eventOf d.source (s.receipt (d.count + k)) ((record.offset? field).map fun offset =>
        saturate (clock.anchor.getD
          (anchorOf field (d.assembler.recordsOver calls) fun k => s.receipt (d.count + k)) + offset))
        record := by
  induction calls generalizing d clock with
  | nil => rfl
  | cons call calls ih =>
    obtain ⟨hsame, hhanded, hpending'⟩ := Assembler.take_fits hpending call
    rw [← hsame] at hpending'
    have hfirst : (d.takeAll s (call :: calls)).1 =
        (d.take s call).1 ++ ((d.take s call).2.takeAll s calls).1 := rfl
    rw [hfirst, take_eq, Assembler.recordsOver]
    generalize htake : d.assembler.take call = taken at *
    obtain ⟨handed, assembler⟩ := taken
    have hcounts : ({ d with assembler } : Decoder).Counts field clock := hd.congr rfl rfl hsame
    have htemplate' : Template.compile text (some parser.shape) = .ok assembler.template :=
      hsame ▸ htemplate
    cases handed with
    | none => exact ih hcounts htemplate' hpending'
    | some record =>
      obtain ⟨timestamp, relative, clock', hresolve, hcounts', hanchor⟩ :=
        hcounts.resolveTime htemplate' hdigits (hsame ▸ hhanded record rfl) s.almanac (s.receipt d.count)
      have hnext : ({ d with assembler, timestamp, relative, count := d.count + 1 } : Decoder).Counts
          field clock' := hcounts'.congr rfl rfl rfl
      have hlater := ih hnext htemplate' hpending'
      have hemit : ({ d with assembler } : Decoder).emit s (some record) =
          ([eventOf d.source (s.receipt d.count) ((record.offset? field).map fun offset =>
            saturate (clock.anchor.getD (s.receipt d.count) + offset)) record],
            { d with assembler, timestamp, relative, count := d.count + 1 }) := by
        simp only [emit, hresolve]
      rw [hemit, hlater, Option.toList_some, List.singleton_append, List.singleton_append,
        List.mapIdx_cons, anchorOf_cons, hanchor]
      have hcount : ∀ k, d.count + 1 + k = d.count + (k + 1) := by omega
      cases hoffset : record.offset? field with
      | none => simp [hcount]
      | some offset => simp [hcount]

theorem new_eq_ok {source template pattern : String} {keep : Bool}
    (h : Decoder.new source template pattern keep = .ok d) :
    ∃ parser compiled, TimestampParser.compile pattern = .ok parser ∧
      Template.compile template (some parser.shape) = .ok compiled ∧
      d = { source, timestamp := parser,
            assembler := { template := compiled, keepUnmatched := keep } } := by
  unfold Decoder.new at h
  cases hparser : TimestampParser.compile pattern with
  | error e => simp [hparser, Except.mapError, bind, Except.bind] at h
  | ok parser =>
    cases hcompiled : Template.compile template (some parser.shape) with
    | error e => simp [hparser, hcompiled, Except.mapError, bind, Except.bind] at h
    | ok compiled =>
      simp only [hparser, hcompiled, Except.mapError, bind, Except.bind, pure, Except.pure,
        Except.ok.injEq] at h
      exact ⟨parser, compiled, rfl, hcompiled, h.symm⟩

end Decoder

/-- The field of a template in which offsets stand: the timestamp where its pattern asks for relative
times, or the relative time where there is no timestamp. -/
def Template.TellsOffsets (template : Template) (pattern : String) (field : Field) : Prop :=
  field = .timestamp ∧ .timestamp ∈ template.fields ∧
      Text.trim pattern.toList = relativePattern.toList ∨
    field = .relativeTime ∧ .relativeTime ∈ template.fields ∧ .timestamp ∉ template.fields

/-- A decoder that is made for relative times counts by a clock without an anchor. -/
theorem Decoder.exists_clock {pattern : String} {parser : TimestampParser} {field : Field}
    (hparser : TimestampParser.compile pattern = .ok parser) (template : Template) (keep : Bool)
    (source : String) (h : template.TellsOffsets pattern field) :
    ∃ clock, clock.anchor = none ∧
      Decoder.Counts { source, timestamp := parser, assembler := { template, keepUnmatched := keep } }
        field clock ∧
      field ∈ template.fields ∧ field ≠ .message ∧
      ∀ piece, field.Stands (some parser) piece → IsDigitText piece := by
  rcases h with ⟨rfl, hmem, hpattern⟩ | ⟨rfl, hmem, hother⟩
  · rw [TimestampParser.compile, if_pos hpattern] at hparser
    obtain rfl := Except.ok.inj hparser
    exact ⟨{}, rfl, .timestamp rfl hmem, hmem, by decide, fun piece h => h⟩
  · refine ⟨{}, rfl, ?_, hmem, by decide, fun piece h => h⟩
    exact .relativeTime hmem hother

/-- **All offsets count from the receipt of the first record that has one.** Whatever lines and ends of
lines a decoder of relative times is given and whenever its records are received, every record becomes an
event, and the time of the event is the anchor plus the offset, kept within 64 bits. A record has no
offset if its first line does not follow the template, or if the digits of the offset are not all among
`0` to `9` or make too large a number; then its event has no time and does not count for the anchor. -/
theorem events_of_offsets {source template pattern : String} {keep : Bool} {d : Decoder}
    (hnew : Decoder.new source template pattern keep = .ok d) {field : Field}
    (hfield : d.assembler.template.TellsOffsets pattern field) (s : Surroundings)
    (calls : List Decoder.Call) :
    let records := d.assembler.recordsOver calls
    let first := records.findIdx fun record => (record.offset? field).isSome
    ((d.takeAll s calls).1 = records.mapIdx fun k record =>
      Decoder.eventOf source (s.receipt k)
        ((record.offset? field).map fun offset => saturate (s.receipt first + offset)) record) ∧
    ∀ record ∈ records, record.unparsed = true ∧ record.fields.get? field = none ∨
      record.unparsed = false ∧ ∃ text, record.fields.get? field = some text ∧
        IsDigitText text.toList := by
  intro records first
  obtain ⟨parser, compiled, hparser, htemplate, rfl⟩ := Decoder.new_eq_ok hnew
  obtain ⟨clock, hclock, hcounts, hmem, hmessage, hdigits⟩ :=
    Decoder.exists_clock hparser compiled keep source hfield
  have hpending : ∀ record ∈ (none : Option Record), record.Fits compiled := by simp
  refine ⟨?_, fun record hrecord => ?_⟩
  · have hevents := hcounts.events_eq (s := s) htemplate hdigits hpending calls
    simpa only [hclock, Option.getD_none, Decoder.anchorOf, Nat.zero_add] using hevents
  · have hfits := Assembler.recordsOver_fit hpending calls record hrecord
    rcases hfits.get?_eq_some (some parser) htemplate hmem hmessage with
      ⟨hunparsed, hfields⟩ | ⟨hparsed, value, hvalue, hstands⟩
    · exact .inl ⟨hunparsed, by rw [hfields]; rfl⟩
    · exact .inr ⟨hparsed, value, hvalue, hdigits _ hstands⟩

/-- The first three records have no offset: one does not follow the template, one has a digit of another
script, and one a number that is too large. The fourth is the anchor, also for what comes after the end of
its lines. -/
theorem events_of_offsets_fourthRecord :
    ∃ d, Decoder.new "app" "RELATIVETIME LEVEL MESSAGE" "HH:mm:ss" true = .ok d ∧
      d.assembler.template.TellsOffsets "HH:mm:ss" .relativeTime ∧
      (d.takeAll ⟨⟨.utc, 2024⟩, fun k => 1000 * k⟩
        [.decode "noise", .decode "٣ INFO a", .decode "99999999999999999999 INFO b",
          .decode "100 INFO c", .decode "\tat app.Main", .flush, .decode "9223372036854775807 INFO d",
          .decode "50 INFO e", .flush]).1.map Event.timestamp =
        [none, none, none, some 3100, some 9223372036854775807, some 3050] := by
  have hnew : Decoder.new "app" "RELATIVETIME LEVEL MESSAGE" "HH:mm:ss" true = .ok _ := rfl
  refine ⟨_, hnew, .inr ⟨rfl, by decide, by decide⟩, ?_⟩
  rw [(events_of_offsets hnew (.inr ⟨rfl, by decide, by decide⟩) _ _).1]
  decide +kernel

end LogIntake
