import LogIntake.Event.Filter
import LogIntake.Proofs.Event.AllLines
import LogIntake.Proofs.Text.CharClass
import LogIntake.Proofs.Text.Lowercase

/-!
# Searching events

* `Event.fields`: the texts of an event in which one looks for something.
* `Event.standsApart_column`, `Event.standsApart_firstLine`, `Event.standsApart_laterLine`,
  `Event.standsApart_property`, `Event.standsApart_source`: each of them stands apart in the text in which a
  filter looks, but for the white space around the first line of the message.
* **`Event.lowercase_infix_searchable`**: a query has its own small letters there if its capital sigmas have
  in the field the shape that they have in the query.
* **`TextFilter.found_iff`**: exactly the queries whose capital sigmas always have the same shape are found
  in all events that hold them.
-/

namespace LogIntake

open Text

variable {zone : Calendar.Zone} {timeFormat : List Calendar.Item} {e : Event}

/-! ## What stands between the fields -/

/-- The characters that stand between the fields have no case and are not passed over. -/
theorem Text.casedAhead_mark {c : Char} (h : c ∈ ['[', ']', ' ', '=', '\n']) (s : List Char) :
    casedAhead (c :: s) = false := by
  simp only [List.mem_cons, List.not_mem_nil, or_false] at h
  rcases h with rfl | rfl | rfl | rfl | rfl <;>
    exact casedAhead_cons_of_mark (by decide +kernel) (by decide +kernel)

/-- A part behind such a character stands apart if no letter behind it has a case. -/
theorem Text.StandsApart.of_mark {part text : List Char} (mark : Char) (front back : List Char)
    (hmark : mark ∈ ['[', ']', ' ', '=', '\n']) (hback : casedAhead back = false)
    (h : text = front ++ mark :: (part ++ back)) : StandsApart part text := by
  refine ⟨front ++ [mark], back, by rw [h]; simp, ?_, hback⟩
  rw [List.reverse_append, List.reverse_singleton, List.singleton_append]
  exact casedAhead_mark hmark _

/-- White space around a text has no case. -/
theorem Text.KeepsSigmas.trim {before part after : List Char} (h : KeepsSigmas before part after) :
    KeepsSigmas (trimStart before) part (trimEnd after) := fun front back hpart => by
  obtain ⟨first, hfirst, hbefore⟩ := exists_append_trimStart before
  obtain ⟨last, hlast, hafter⟩ := exists_trimEnd_append after
  have huncased : casedAhead first.reverse = false ∧ casedAhead last = false :=
    ⟨casedAhead_of_forall fun c hc => isCased_of_isBlank (hfirst c (List.mem_reverse.mp hc)),
      casedAhead_of_forall fun c hc => isCased_of_isBlank (hlast c hc)⟩
  rw [← h front back hpart]
  conv_rhs => rw [hbefore, hafter, List.append_assoc, ← List.append_assoc back]
  rw [endsWord_append_append huncased.1 huncased.2]

namespace Event

/-- The texts of an event in which one looks for something: the lines of the message, the level, the
logger, the thread, the receiver and the properties. -/
def fields (e : Event) : List (List Char) :=
  lines e.message.toList ++
    ([e.level, e.logger] ++ e.thread.toList ++ [e.source] ++ e.properties.map Prod.snd).map
      String.toList

/-- What follows the message in the text in which a filter looks. -/
def trailer (e : Event) : List Char :=
  (e.properties.flatMap fun (key, value) => ' ' :: key.toList ++ '=' :: value.toList) ++
    ' ' :: e.source.toList

theorem toList_searchable (e : Event) : (e.searchable zone timeFormat).toList =
    e.header zone timeFormat ++ e.body ++ e.trailer := by
  have hproperties : ∀ properties : Properties,
      (String.join (properties.map fun (key, value) => " " ++ key ++ "=" ++ value)).toList =
        properties.flatMap fun (key, value) => ' ' :: key.toList ++ '=' :: value.toList := by
    intro properties
    rw [String.toList_join, List.flatMap_map]
    simp
  simp only [searchable, String.toList_append, toList_full, hproperties, trailer, List.append_assoc]
  rfl

/-- Items that all begin with one of the marks. -/
theorem casedAhead_flatMap {α : Type} (mark : Char) (hmark : mark ∈ ['[', ']', ' ', '=', '\n'])
    (items : List α) (f : α → List Char) {back : List Char} (hback : casedAhead back = false) :
    casedAhead (items.flatMap (mark :: f ·) ++ back) = false := by
  cases items with
  | nil => exact hback
  | cons item items => exact casedAhead_mark hmark _

theorem casedAhead_properties (properties : Properties) (e : Event) :
    casedAhead ((properties.flatMap fun (key, value) => ' ' :: key.toList ++ '=' :: value.toList) ++
      ' ' :: e.source.toList) = false :=
  casedAhead_flatMap ' ' (by decide) properties
    (fun (key, value) => key.toList ++ '=' :: value.toList) (casedAhead_mark (by decide) _)

theorem casedAhead_laterLines (later : List (List Char)) (e : Event) :
    casedAhead (later.flatMap ('\n' :: ·) ++ e.trailer) = false :=
  casedAhead_flatMap '\n' (by decide) later (fun line => line) (casedAhead_properties e.properties e)

/-! ## The fields -/

/-- A column stands between its brackets. -/
theorem standsApart_column {column : String} (h : column ∈ e.columns zone timeFormat)
    (hne : column ≠ "") : StandsApart column.toList (e.searchable zone timeFormat).toList := by
  have hshown : column ∈ (e.columns zone timeFormat).filter (· ≠ "") :=
    List.mem_filter.mpr ⟨h, decide_eq_true hne⟩
  obtain ⟨front, back, hsplit⟩ := List.append_of_mem hshown
  refine .of_mark '[' (front.flatMap fun column => '[' :: column.toList ++ [']', ' '])
    (']' :: ' ' :: ((back.flatMap fun column => '[' :: column.toList ++ [']', ' ']) ++ e.body ++
      e.trailer)) (by decide) (casedAhead_mark (by decide) _) ?_
  rw [toList_searchable, header, hsplit, List.flatMap_append, List.flatMap_cons]
  simp only [List.append_assoc, List.cons_append, List.nil_append]

theorem casedAhead_header (e : Event) : casedAhead (e.header zone timeFormat).reverse = false := by
  unfold header
  obtain hnil | ⟨front, last, hlast⟩ := List.eq_nil_or_concat
    ((e.columns zone timeFormat).filter (· ≠ ""))
  · rw [hnil]
    rfl
  · rw [hlast, List.concat_eq_append, List.flatMap_append, List.flatMap_singleton]
    simp only [List.reverse_append, List.reverse_cons, List.reverse_nil, List.nil_append,
      List.cons_append]
    exact casedAhead_mark (by decide) _

/-- The first line stands behind the columns. -/
theorem standsApart_firstLine (e : Event) :
    StandsApart (firstLine e.message.toList) (e.searchable zone timeFormat).toList := by
  refine ⟨e.header zone timeFormat, ((lines e.message.toList).drop 1).flatMap ('\n' :: ·) ++ e.trailer,
    ?_, e.casedAhead_header, casedAhead_laterLines _ e⟩
  rw [toList_searchable, body]
  simp only [List.append_assoc]

/-- A later line stands behind a line feed. -/
theorem standsApart_laterLine {line : List Char} (h : line ∈ (lines e.message.toList).drop 1) :
    StandsApart line (e.searchable zone timeFormat).toList := by
  obtain ⟨front, back, hsplit⟩ := List.append_of_mem h
  refine .of_mark '\n'
    (e.header zone timeFormat ++ firstLine e.message.toList ++ front.flatMap ('\n' :: ·))
    (back.flatMap ('\n' :: ·) ++ e.trailer) (by decide) (casedAhead_laterLines back e) ?_
  rw [toList_searchable, body, hsplit, List.flatMap_append, List.flatMap_cons]
  simp only [List.append_assoc, List.cons_append]

/-- The text of a property stands behind its key. -/
theorem standsApart_property {key value : String} (h : (key, value) ∈ e.properties) :
    StandsApart value.toList (e.searchable zone timeFormat).toList := by
  obtain ⟨front, back, hsplit⟩ := List.append_of_mem h
  refine .of_mark '=' (e.header zone timeFormat ++ e.body ++
    ((front.flatMap fun (key, value) => ' ' :: key.toList ++ '=' :: value.toList) ++ ' ' :: key.toList))
    ((back.flatMap fun (key, value) => ' ' :: key.toList ++ '=' :: value.toList) ++
      ' ' :: e.source.toList) (by decide) (casedAhead_properties back e) ?_
  rw [toList_searchable, trailer, hsplit, List.flatMap_append, List.flatMap_cons]
  simp only [List.append_assoc, List.cons_append]

/-- The name of the receiver stands at the end. -/
theorem standsApart_source (e : Event) :
    StandsApart e.source.toList (e.searchable zone timeFormat).toList := by
  refine .of_mark ' ' (e.header zone timeFormat ++ e.body ++
    e.properties.flatMap fun (key, value) => ' ' :: key.toList ++ '=' :: value.toList)
    [] (by decide) rfl ?_
  rw [toList_searchable, trailer]
  simp only [List.append_assoc, List.append_nil]

/-! ## Queries -/

/-- The first line of the message that holds a query is the one that stands next to the columns. -/
theorem firstLine_of_head {line : List Char} {rest : List (List Char)}
    (h : lines e.message.toList = line :: rest) (hline : trim line ≠ []) :
    firstLine e.message.toList = trim line := by
  have hsolid : solid? line = some (trim line) := by
    rw [solid?, if_neg (by rwa [List.isEmpty_iff])]
  rw [firstLine_eq, solidLines, h, List.filterMap_cons, hsolid]
  rfl

section Query

variable {query before after field : List Char} (hquery : IsTrimmed query) (hne : query ≠ [])
  (heq : field = before ++ query ++ after) (hkeeps : KeepsSigmas before query after)
include hquery hne heq hkeeps

theorem lowercase_infix_of_mem_lines (hfield : field ∈ lines e.message.toList) :
    lowercase query <:+: lowercase (e.searchable zone timeFormat).toList := by
  cases hlines : lines e.message.toList with
  | nil => exact absurd hfield (by rw [hlines]; exact List.not_mem_nil)
  | cons line rest =>
    rw [hlines] at hfield
    rcases List.mem_cons.mp hfield with rfl | hlater
    · have htrim : trim field = trimStart before ++ query ++ trimEnd after := by
        rw [heq, trim_append_append hne hquery]
      have hfirst := firstLine_of_head hlines (by rw [htrim]; simp [hne])
      have hapart : StandsApart (firstLine e.message.toList) (e.searchable zone timeFormat).toList :=
        e.standsApart_firstLine
      rw [hfirst, htrim] at hapart
      exact lowercase_infix_of_keepsSigmas hapart hkeeps.trim
    · have hapart : StandsApart field (e.searchable zone timeFormat).toList :=
        standsApart_laterLine (by rw [hlines]; exact hlater)
      exact lowercase_infix_of_keepsSigmas (heq ▸ hapart) hkeeps

omit hquery in
theorem lowercase_infix_of_mem_columns {column : String} (h : column ∈ e.columns zone timeFormat)
    (hfield : column.toList = field) :
    lowercase query <:+: lowercase (e.searchable zone timeFormat).toList := by
  have hcolumn : column ≠ "" := by
    rintro rfl
    exact hne (List.append_eq_nil_iff.mp (List.append_eq_nil_iff.mp (hfield.trans heq).symm).1).2
  have hapart := standsApart_column h hcolumn
  rw [hfield, heq] at hapart
  exact lowercase_infix_of_keepsSigmas hapart hkeeps

omit hne in
/-- **A query has its own small letters in the text in which a filter looks**, if its capital sigmas have
in some field the shape that they have in the query. -/
theorem lowercase_infix_searchable (hfield : field ∈ e.fields) :
    lowercase query <:+: lowercase (e.searchable zone timeFormat).toList := by
  by_cases hne : query = []
  · rw [hne]
    exact List.nil_infix
  rcases List.mem_append.mp hfield with hline | hother
  · exact lowercase_infix_of_mem_lines hquery hne heq hkeeps hline
  · obtain ⟨text, htext, hfield⟩ := List.mem_map.mp hother
    simp only [List.cons_append, List.nil_append, List.mem_cons, List.mem_append,
      List.not_mem_nil, or_false, Option.mem_toList] at htext
    rcases htext with rfl | rfl | (hthread | rfl) | hproperty
    · exact lowercase_infix_of_mem_columns hne heq hkeeps (by simp [columns]) hfield
    · exact lowercase_infix_of_mem_columns hne heq hkeeps (by simp [columns]) hfield
    · exact lowercase_infix_of_mem_columns hne heq hkeeps (by simp [columns, hthread]) hfield
    · have hapart : StandsApart e.source.toList (e.searchable zone timeFormat).toList :=
        e.standsApart_source
      rw [hfield, heq] at hapart
      exact lowercase_infix_of_keepsSigmas hapart hkeeps
    · obtain ⟨⟨key, value⟩, hmem, rfl⟩ := List.mem_map.mp hproperty
      have hapart : StandsApart value.toList (e.searchable zone timeFormat).toList :=
        standsApart_property hmem
      rw [hfield, heq] at hapart
      exact lowercase_infix_of_keepsSigmas hapart hkeeps

end Query

/-- The text of an event of which only the receiver is known. -/
theorem toList_searchable_of_source (source : String) :
    (({ source, message := "" } : Event).searchable zone timeFormat).toList =
      ' ' :: source.toList := by
  have hheader : ({ source, message := "" } : Event).header zone timeFormat = [] := by
    simp [header, columns, localTime?]
  rw [toList_searchable, hheader]
  rfl

/-- Whether some field of an event holds a text. -/
def Holds (e : Event) (text : String) : Prop :=
  ∃ field ∈ e.fields, text.toList <:+: field

end Event

namespace TextFilter

/-- **Which queries are found wherever they occur.** A query without white space at its ends is found in
every event one of whose fields holds it so that each capital sigma of the query ends a word there if and
only if it does in the query. It is found in all events that hold it if and only if this is so whatever
stands around it. -/
theorem found_iff (zone : Calendar.Zone) {query : String} (h : IsTrimmed query.toList) :
    (∀ e : Event, ∀ field ∈ e.fields, ∀ before after, field = before ++ query.toList ++ after →
        KeepsSigmas before query.toList after → (new query).accepts zone e = true) ∧
      ((∀ e : Event, e.Holds query → (new query).accepts zone e = true) ↔
        ∀ before after, KeepsSigmas before query.toList after) := by
  have hfound : ∀ e : Event, ∀ field ∈ e.fields, ∀ before after,
      field = before ++ query.toList ++ after → KeepsSigmas before query.toList after →
        (new query).accepts zone e = true := fun e field hfield before after heq hkeeps =>
    hasInfix_iff.mpr (Event.lowercase_infix_searchable h heq hkeeps hfield)
  refine ⟨hfound, fun hall => ?_, fun hkeeps e hholds => ?_⟩
  · by_contra hloose
    obtain ⟨before, after, hnot⟩ := exists_not_infix hloose
    -- the receiver has the name that shows the sigma
    have hholds : ({ source := String.ofList (before ++ query.toList ++ after), message := "" } :
        Event).Holds query := by
      refine ⟨before ++ query.toList ++ after, ?_, List.infix_append _ _ _⟩
      simp [Event.fields]
    have haccepts := hasInfix_iff.mp (hall _ hholds)
    rw [Event.toList_searchable_of_source, String.toList_ofList] at haccepts
    exact hnot haccepts
  · obtain ⟨field, hfield, before, after, heq⟩ := hholds
    exact hfound e field hfield before after heq.symm (hkeeps before after)

/-- An event whose message are two words in Greek capital letters. -/
def greekEvent : Event :=
  { source := "app", level := "INFO", message := "ΟΔΟΣ ΑΘΗΝΑΣ" }

theorem mem_fields_greekEvent : "ΟΔΟΣ ΑΘΗΝΑΣ".toList ∈ greekEvent.fields := by decide +kernel

/-- A query with a sigma inside is found. -/
theorem found_iff_sigmaInside :
    IsTrimmed "ΟΔΟΣ Α".toList ∧ greekEvent.Holds "ΟΔΟΣ Α" ∧
      (new "ΟΔΟΣ Α").accepts .utc greekEvent = true := by
  have htrimmed : IsTrimmed "ΟΔΟΣ Α".toList := by
    refine ⟨fun c hc => ?_, fun c hc => ?_⟩
    · obtain rfl : 'Ο' = c := Option.some.inj hc
      decide
    · obtain rfl : 'Α' = c := Option.some.inj hc
      decide
  have hholds : greekEvent.Holds "ΟΔΟΣ Α" :=
    ⟨_, mem_fields_greekEvent, [], "ΘΗΝΑΣ".toList, by decide +kernel⟩
  have hkeeps : ∀ before after, KeepsSigmas before "ΟΔΟΣ Α".toList after := by
    refine keepsSigmas_of_not_all fun front back hs => ?_
    have hword : "ΟΔΟΣ Α".toList = "ΟΔΟ".toList ++ 'Σ' :: " Α".toList := rfl
    obtain ⟨rfl, -, rfl⟩ :=
      (List.append_cons_inj_of_notMem (by decide) (by decide)).mp (hword.symm.trans hs)
    decide +kernel
  exact ⟨htrimmed, hholds, ((found_iff .utc htrimmed).2.mpr hkeeps) greekEvent hholds⟩

/-- **A capital sigma alone is not found in a word that it ends**, although the word holds it: on its own
it ends no word. -/
theorem not_found_sigmaAlone :
    IsTrimmed "Σ".toList ∧ greekEvent.Holds "Σ" ∧ (new "Σ").accepts .utc greekEvent = false := by
  refine ⟨⟨fun c hc => ?_, fun c hc => ?_⟩, ?_, by decide +kernel⟩
  · obtain rfl : 'Σ' = c := Option.some.inj hc
    decide
  · obtain rfl : 'Σ' = c := Option.some.inj hc
    decide
  · exact ⟨_, mem_fields_greekEvent, "ΟΔΟ".toList, " ΑΘΗΝΑΣ".toList, by decide +kernel⟩

end TextFilter

end LogIntake
