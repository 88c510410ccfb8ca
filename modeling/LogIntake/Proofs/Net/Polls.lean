import LogIntake.Net.Network
import Mathlib.Data.List.Induction

/-!
# The lines of a source and the loss of its peer

* `SocketSource.delivered`, `SocketSource.pushed`: the lines that polls have returned, and those that the
  reader has appended.
* `SocketSource.run_lines`: each line that was appended has been returned once or waits, in order.
* `SocketSource.FoundNothing`: a poll has found no line and has not yet asked for the loss;
  `SocketSource.exists_foundNothing`: there is such a poll whenever a loss can be told, and what was
  appended during it waits.
* **`SocketSource.loss_told_last_iff`**: when a loss is told, every line has been returned exactly if the
  reader appended none since that poll looked for lines.
-/

namespace LogIntake.SocketSource

variable {source : SocketSource} {actions : List Action} {action : Action}

/-! ## Lines through a source -/

/-- The line that a step appends. -/
def Action.line? : Action → Option String
  | .push line => some line
  | .lose _ | .drain | .takeLoss => none

/-- Whether a step is one of the reader. -/
def Action.isReading : Action → Bool
  | .push _ | .lose _ => true
  | .drain | .takeLoss => false

/-- The lines that steps append, in order. -/
def pushed (actions : List Action) : List String :=
  actions.filterMap Action.line?

/-- The lines of the answers so far, in order. -/
def delivered (source : SocketSource) : List String :=
  source.answers.flatMap fun
    | .ok batch => batch.lines
    | .error _ => []

theorem pushed_append (actions later : List Action) :
    pushed (actions ++ later) = pushed actions ++ pushed later :=
  List.filterMap_append

theorem pushed_singleton (action : Action) : pushed [action] = action.line?.toList := by
  cases action <;> rfl

theorem pushed_map_push (lines : List String) : pushed (lines.map .push) = lines := by
  rw [pushed, List.filterMap_map]
  exact List.filterMap_some

/-- Only the steps of the reader append lines. -/
theorem pushed_filter_isReading (actions : List Action) :
    pushed (actions.filter Action.isReading) = pushed actions := by
  rw [pushed, List.filterMap_filter, pushed]
  congr 1
  funext action
  cases action <;> rfl

theorem run_append (source : SocketSource) (actions later : List Action) :
    source.run (actions ++ later) = (source.run actions).run later :=
  List.foldl_append

theorem run_concat (source : SocketSource) (actions : List Action) (action : Action) :
    source.run (actions ++ [action]) = (source.run actions).step action :=
  run_append source actions [action]

theorem delivered_reply_ok (source : SocketSource) (batch : Batch) :
    (source.reply (.ok batch)).delivered = source.delivered ++ batch.lines := by
  simp [delivered, reply]

theorem delivered_reply_error (source : SocketSource) (e : SourceError) :
    (source.reply (.error e)).delivered = source.delivered := by
  simp [delivered, reply]

/-- A step neither drops a line nor returns one twice. -/
theorem step_lines (source : SocketSource) (action : Action) :
    (source.step action).delivered ++ (source.step action).buffer =
      source.delivered ++ source.buffer ++ action.line?.toList := by
  cases action with
  | push line => exact (List.append_assoc _ _ _).symm
  | lose reason => exact (List.append_nil _).symm
  | drain =>
    -- a poll is under way, the source is closed, no line waits, or lines do
    rw [Action.line?, Option.toList_none, List.append_nil, step]
    split
    · rfl
    split
    · rw [delivered_reply_error]
      rfl
    split
    · rfl
    · rw [delivered_reply_ok]
      exact List.append_nil _
  | takeLoss =>
    rw [Action.line?, Option.toList_none, List.append_nil, step]
    split
    · cases source.lost with
      | some reason => exact congrArg (· ++ source.buffer) (delivered_reply_error _ _)
      | none => exact congrArg (· ++ source.buffer) ((delivered_reply_ok _ _).trans (List.append_nil _))
    · rfl

/-- **Each line that was appended has been returned once or waits, in order.** -/
theorem run_lines (source : SocketSource) (actions : List Action) :
    (source.run actions).delivered ++ (source.run actions).buffer =
      source.delivered ++ source.buffer ++ pushed actions := by
  induction actions using List.reverseRecOn with
  | nil => exact (List.append_nil _).symm
  | append_singleton actions action ih =>
    rw [run_concat, step_lines, ih, pushed_append, pushed_singleton, List.append_assoc]

/-! ## A poll that has found no line -/

/-- A poll is under way that has found no line: after the steps in front it looked for lines and none
waited, and it has not yet asked for the loss. -/
structure FoundNothing (source : SocketSource) (actions front between : List Action) : Prop where
  eq : actions = front ++ .drain :: between
  idle : (source.run front).emptyHanded = false
  none_waits : (source.run front).buffer = []
  unasked : .takeLoss ∉ between

/-- Only a poll that finds no line becomes empty-handed. -/
theorem of_emptyHanded_step (hidle : source.emptyHanded = false)
    (h : (source.step action).emptyHanded = true) :
    action = .drain ∧ source.buffer = [] ∧ (source.step action).buffer = [] := by
  cases action with
  | push line => exact absurd h (by simp [step, hidle])
  | lose reason => exact absurd h (by simp [step, hidle])
  | takeLoss => exact absurd h (by simp [step, hidle])
  | drain =>
    rw [step, if_neg (by simp [hidle])] at h ⊢
    split at h
    · exact absurd h Bool.false_ne_true
    next hopen =>
      split at h
      · next hempty =>
        have hnil := List.isEmpty_iff.mp hempty
        exact ⟨rfl, hnil, by rw [if_neg hopen, if_pos hempty]; exact hnil⟩
      · exact absurd h Bool.false_ne_true

/-- As long as it has not asked for the loss, what is appended waits. -/
theorem buffer_of_emptyHanded_step (hempty : source.emptyHanded = true)
    (h : (source.step action).emptyHanded = true) :
    action ≠ .takeLoss ∧ (source.step action).buffer = source.buffer ++ action.line?.toList := by
  cases action with
  | push line => exact ⟨nofun, rfl⟩
  | lose reason => exact ⟨nofun, (List.append_nil _).symm⟩
  | drain => exact ⟨nofun, by rw [step, if_pos hempty]; exact (List.append_nil _).symm⟩
  | takeLoss =>
    rw [step, if_pos hempty] at h
    exact absurd h Bool.false_ne_true

/-- Whenever a loss can be told, such a poll is under way, and what was appended during it waits. -/
theorem exists_foundNothing (hidle : source.emptyHanded = false)
    (h : (source.run actions).emptyHanded = true) :
    ∃ front between, FoundNothing source actions front between ∧
      (source.run actions).buffer = pushed between := by
  induction actions using List.reverseRecOn with
  | nil => exact absurd (hidle.symm.trans h) Bool.false_ne_true
  | append_singleton actions action ih =>
    rw [run_concat] at h ⊢
    cases hbefore : (source.run actions).emptyHanded with
    | false =>
      obtain ⟨rfl, hnone, hbuffer⟩ := of_emptyHanded_step hbefore h
      exact ⟨actions, [], ⟨rfl, hbefore, hnone, List.not_mem_nil⟩, hbuffer⟩
    | true =>
      obtain ⟨front, between, hfound, hbuffer⟩ := ih hbefore
      obtain ⟨hasked, hstep⟩ := buffer_of_emptyHanded_step hbefore h
      refine ⟨front, between ++ [action], ⟨?_, hfound.idle, hfound.none_waits, ?_⟩, ?_⟩
      · rw [hfound.eq, List.append_assoc, List.cons_append]
      · rw [List.mem_append, List.mem_singleton, not_or]
        exact ⟨hfound.unasked, hasked.symm⟩
      · rw [hstep, hbuffer, pushed_append, pushed_singleton]

/-! ## The loss -/

theorem lost_of_step {reason : String} (h : (source.step action).lost = some reason) :
    source.lost = some reason ∨ action = .lose reason := by
  cases action with
  | push line => exact .inl h
  | lose told => exact .inr (congrArg Action.lose (Option.some.inj h))
  | drain =>
    left
    rw [step] at h
    split_ifs at h <;> exact h
  | takeLoss =>
    rw [step] at h
    split at h
    · exact absurd h nofun
    · exact .inl h

/-- A loss that is known was recorded. -/
theorem lose_mem_of_lost (hlost : source.lost = none) {reason : String}
    (h : (source.run actions).lost = some reason) : .lose reason ∈ actions := by
  induction actions using List.reverseRecOn with
  | nil => exact absurd (hlost.symm.trans h) nofun
  | append_singleton actions action ih =>
    rw [run_concat] at h
    rcases lost_of_step h with h | rfl
    · exact List.mem_append_left _ (ih h)
    · exact List.mem_append_right _ List.mem_cons_self

/-- A loss is told only by a poll that has found no line, and only if one was recorded. -/
theorem of_loss_told {told : String} (h : (source.step .takeLoss).answers =
    source.answers ++ [.error (.lost told)]) :
    source.emptyHanded = true ∧ source.lost = some told := by
  rw [step] at h
  split at h
  · next hempty =>
    have hanswer := List.append_cancel_left h
    cases hlost : source.lost with
    | none => simp [hlost] at hanswer
    | some reason =>
      rw [hlost] at hanswer
      exact ⟨hempty, by simpa using hanswer⟩
  · exact absurd h (by simp)

/-- A reader that has recorded the loss has appended all its lines. -/
theorem pushed_of_lose_mem {lines : List String} {reason told : String}
    (hreader : actions.filter Action.isReading <+: lines.map .push ++ [.lose reason])
    (h : .lose told ∈ actions) : told = reason ∧ pushed actions = lines := by
  have hmem : Action.lose told ∈ actions.filter Action.isReading := List.mem_filter.mpr ⟨h, rfl⟩
  rcases List.prefix_concat_iff.mp hreader with hall | hpart
  · constructor
    · simpa [hall] using hmem
    · rw [← pushed_filter_isReading, hall, pushed_append, pushed_map_push]
      exact List.append_nil _
  · exact absurd (hpart.subset hmem) (by simp)

/-- **When a loss is told, every line has been returned exactly if the reader appended none since that poll
looked for lines.** Those that it appended since then wait. -/
theorem loss_told_last_iff {source : SocketSource} (hlost : source.lost = none)
    (hidle : source.emptyHanded = false) {actions : List Action} {lines : List String}
    {reason told : String}
    (hreader : actions.filter Action.isReading <+: lines.map .push ++ [.lose reason])
    (htold : ((source.run actions).step .takeLoss).answers =
      (source.run actions).answers ++ [.error (.lost told)]) :
    told = reason ∧ ∃ front between, FoundNothing source actions front between ∧
      ((source.run actions).step .takeLoss).buffer = pushed between ∧
      ((source.run actions).step .takeLoss).delivered ++ pushed between =
        source.delivered ++ source.buffer ++ lines ∧
      (((source.run actions).step .takeLoss).delivered = source.delivered ++ source.buffer ++ lines ↔
        pushed between = []) := by
  obtain ⟨hempty, hknown⟩ := of_loss_told htold
  obtain ⟨rfl, hall⟩ := pushed_of_lose_mem hreader (lose_mem_of_lost hlost hknown)
  obtain ⟨front, between, hfound, hbuffer⟩ := exists_foundNothing hidle hempty
  -- the last step of a poll takes no line
  have hwaits : ((source.run actions).step .takeLoss).buffer = pushed between := by
    rw [← hbuffer, step, if_pos hempty]
    rfl
  have hlines : ((source.run actions).step .takeLoss).delivered ++ pushed between =
      source.delivered ++ source.buffer ++ lines := by
    rw [← hwaits, step_lines, run_lines, hall]
    exact List.append_nil _
  refine ⟨rfl, front, between, hfound, hwaits, hlines, ?_⟩
  rw [← hlines, List.self_eq_append_right]

/-- A peer sends two lines and leaves. The second one and the loss come in after a poll has found no line. -/
def lateFarewell : List Action :=
  [.push "hello", .drain, .drain, .push "bye", .lose peerGone]

/-- The same two lines. A first poll returns them both, and a second one finds no line. -/
def promptFarewell : List Action :=
  [.push "hello", .push "bye", .drain, .lose peerGone, .drain]

/-- The poll that tells the loss leaves the late line behind. Where none is late, it leaves none. -/
theorem loss_told_last_iff_lateFarewell :
    (∃ front between, FoundNothing (opened {}) lateFarewell front between ∧
      (((opened {}).run lateFarewell).step .takeLoss).buffer = pushed between ∧
      (((opened {}).run lateFarewell).step .takeLoss).delivered ++ pushed between = ["hello", "bye"] ∧
      ((((opened {}).run lateFarewell).step .takeLoss).delivered = ["hello", "bye"] ↔
        pushed between = [])) ∧
    ∃ front between, FoundNothing (opened {}) promptFarewell front between ∧
      (((opened {}).run promptFarewell).step .takeLoss).delivered = ["hello", "bye"] ∧
      pushed between = [] := by
  refine ⟨And.right (loss_told_last_iff rfl rfl ⟨[], rfl⟩ rfl), ?_⟩
  have hreader : promptFarewell.filter Action.isReading <+:
      ["hello", "bye"].map .push ++ [.lose peerGone] := ⟨[], rfl⟩
  have htold : (((opened {}).run promptFarewell).step .takeLoss).answers =
      ((opened {}).run promptFarewell).answers ++ [.error (.lost peerGone)] := rfl
  obtain ⟨-, front, between, hfound, -, -, hall⟩ := loss_told_last_iff rfl rfl hreader htold
  exact ⟨front, between, hfound, rfl, hall.mp rfl⟩

/-- **A line of the peer waits when the loss is told.** -/
theorem waits_when_told_lateFarewell :
    lateFarewell.filter Action.isReading =
        (Traffic.peer [Text.Utf8.encode "hello\nbye\n".toList]).actions ∧
      (((opened {}).run lateFarewell).step .takeLoss).answers =
        ((opened {}).run lateFarewell).answers ++ [.error (.lost peerGone)] ∧
      (((opened {}).run lateFarewell).step .takeLoss).delivered = ["hello"] ∧
      (((opened {}).run lateFarewell).step .takeLoss).buffer = ["bye"] :=
  ⟨by decide +kernel, rfl, rfl, rfl⟩

end LogIntake.SocketSource
