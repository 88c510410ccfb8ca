import LogIntake.Proofs.File.Lines
import LogIntake.Proofs.Net.Polls
import LogIntake.Proofs.Text.Lines
import Mathlib.Data.List.TakeWhile

/-!
# The same bytes in a datagram and over a connection

* `pieceLine?`: the line of the bytes between two line feeds.
* `datagramLines_eq`: a datagram gives the lines of all its pieces.
* `StreamReader.readAll_flatten`: how the bytes of a connection come in segments is of no account.
* `streamLines_eq`: a connection gives the lines of the pieces in front of the first one that is no text.
* **`SocketSource.arrivals_agree_iff`**: polls return the same lines exactly if the bytes are a text.
-/

namespace LogIntake

open Text

/-! ## Pieces -/

/-- The line of the bytes between two line feeds. Bytes that are no text are replaced. -/
def pieceLine? (piece : List UInt8) : Option String :=
  bareLine? (Utf8.decodeLossy piece)

/-- Whether bytes are a text. -/
def isText (bytes : List UInt8) : Bool :=
  (Utf8.decode? bytes).isSome

theorem bareLine?_eq_none_iff {line : List Char} : bareLine? line = none ↔ ∀ c ∈ line, c = '\r' := by
  have hbare : (line.reverse.dropWhile (· == '\r')).reverse = [] ↔ ∀ c ∈ line, c = '\r' := by
    rw [List.reverse_eq_nil_iff, List.dropWhile_eq_nil_iff]
    simp
  rw [bareLine?, ← hbare]
  simp

theorem bareLine?_dropReturn (line : List Char) : bareLine? (dropReturn line) = bareLine? line := by
  rcases dropReturn_cases line with h | h
  · rw [h]
  · conv_rhs => rw [h]
    simp [bareLine?]

/-- The line of what is no text holds something. -/
theorem isSome_pieceLine?_of_not_isText {piece : List UInt8} (h : ¬ isText piece) :
    (pieceLine? piece).isSome := by
  have hmark : '\uFFFD' ∈ Utf8.decodeLossy piece :=
    Utf8.mem_decodeLossy_of_malformed (by simpa [isText] using h)
  rw [← Option.ne_none_iff_isSome, pieceLine?, Ne, bareLine?_eq_none_iff]
  exact fun hreturn => absurd (hreturn _ hmark) (by decide)

theorem isText_line (piece later : List UInt8) :
    isText (piece ++ lineFeed :: later) ↔ isText piece ∧ isText later :=
  Utf8.isSome_decode?_append_cons (by decide)

variable {bytes rest : List UInt8} {pieces : List (List UInt8)}

namespace IsSplit

theorem split_decodeLossy (h : IsSplit bytes pieces rest) :
    split '\n' (Utf8.decodeLossy bytes) = (pieces ++ [rest]).map Utf8.decodeLossy := by
  have hfree : ∀ piece : List UInt8, lineFeed ∉ piece → '\n' ∉ Utf8.decodeLossy piece :=
    fun piece hpiece hmem => hpiece (Utf8.mem_of_mem_decodeLossy (by decide) (by decide) hmem)
  obtain ⟨rfl, hpieces, hrest⟩ := h
  induction pieces with
  | nil => exact split_of_not_mem (hfree rest hrest)
  | cons piece pieces ih =>
    obtain ⟨hpiece, hpieces⟩ := List.forall_mem_cons.mp hpieces
    rw [joinLines_cons, List.append_assoc, List.cons_append,
      Utf8.decodeLossy_append_cons (by decide)]
    exact (split_append_cons '\n' _ _).trans
      (congrArg₂ _ (split_of_not_mem (hfree piece hpiece)) (ih hpieces))

/-- Bytes are a text if all their pieces are. -/
theorem isText_iff (h : IsSplit bytes pieces rest) :
    isText bytes ↔ ∀ piece ∈ pieces ++ [rest], isText piece := by
  obtain ⟨rfl, -, -⟩ := h
  induction pieces with
  | nil => simp [joinLines_nil]
  | cons piece pieces ih =>
    rw [joinLines_cons, List.append_assoc, List.cons_append, isText_line, ih, List.cons_append,
      List.forall_mem_cons]

end IsSplit

/-- **A datagram gives the lines of all its pieces.** -/
theorem datagramLines_eq (bytes : List UInt8) :
    datagramLines bytes = (splitLines bytes).filterMap pieceLine? := by
  obtain ⟨pieces, rest, h⟩ := exists_isSplit bytes
  rw [datagramLines, filterMap_lines bareLine?_dropReturn rfl, h.split_decodeLossy,
    List.filterMap_map, h.splitLines_eq]
  rfl

/-! ## A connection -/

namespace StreamReader

theorem takeSegment_cons (reader : StreamReader) (byte : UInt8) (segment : List UInt8) :
    reader.takeSegment (byte :: segment) =
      ((reader.takeByte byte).1 ++ ((reader.takeByte byte).2.takeSegment segment).1,
        ((reader.takeByte byte).2.takeSegment segment).2) := rfl

theorem readAll_cons (reader : StreamReader) (segment : List UInt8)
    (segments : List (List UInt8)) : reader.readAll (segment :: segments) =
      (reader.takeSegment segment).1 ++ (reader.takeSegment segment).2.readAll segments := rfl

theorem takeSegment_append (reader : StreamReader) (segment later : List UInt8) :
    reader.takeSegment (segment ++ later) =
      ((reader.takeSegment segment).1 ++ ((reader.takeSegment segment).2.takeSegment later).1,
        ((reader.takeSegment segment).2.takeSegment later).2) := by
  induction segment generalizing reader with
  | nil => rfl
  | cons byte segment ih =>
    rw [List.cons_append, takeSegment_cons, ih, takeSegment_cons, List.append_assoc]

/-- **How the bytes come in segments is of no account.** -/
theorem readAll_flatten (reader : StreamReader) (segments : List (List UInt8)) :
    reader.readAll segments = reader.readAll [segments.flatten] := by
  -- the pending bytes go from one segment to the next, so the reader is any
  induction segments generalizing reader with
  | nil => rfl
  | cons segment segments ih =>
    rw [List.flatten_cons, readAll_cons, readAll_cons, takeSegment_append, ih, readAll_cons,
      List.append_assoc]

theorem takeSegment_of_broken {reader : StreamReader} (h : reader.broken = true)
    (segment : List UInt8) : reader.takeSegment segment = ([], reader) := by
  induction segment with
  | nil => rfl
  | cons byte segment ih => simp [takeSegment, takeByte, h, ih]

/-- Bytes without a line feed wait for one. -/
theorem takeSegment_of_not_mem {pending piece : List UInt8} (h : lineFeed ∉ piece) :
    takeSegment { pending } piece = ([], { pending := piece.reverse ++ pending }) := by
  induction piece generalizing pending with
  | nil => rfl
  | cons byte piece ih =>
    rw [List.mem_cons, not_or] at h
    simp [takeSegment, takeByte, Ne.symm h.1, ih h.2]

theorem endLine_reverse (piece : List UInt8) : endLine { pending := piece.reverse } =
    if isText piece then ((pieceLine? piece).toList, {}) else ([], { broken := true }) := by
  rw [endLine, List.reverse_reverse, isText, Utf8.decode?_eq]
  by_cases h : none ∈ Utf8.units piece
  · simp only [if_pos h]
    rfl
  · simp only [if_neg h]
    rfl

/-- The last line of a connection needs no line feed. -/
theorem readAll_last {piece : List UInt8} (h : lineFeed ∉ piece) :
    readAll {} [piece] = if isText piece then (pieceLine? piece).toList else [] := by
  rw [readAll_cons, takeSegment_of_not_mem h, List.append_nil, List.nil_append, readAll,
    if_neg Bool.false_ne_true, endLine_reverse]
  split <;> rfl

/-- A line that is no text is the end of all. -/
theorem readAll_line {piece : List UInt8} (h : lineFeed ∉ piece) (later : List UInt8) :
    readAll {} [piece ++ lineFeed :: later] =
      if isText piece then (pieceLine? piece).toList ++ readAll {} [later] else [] := by
  have hend : takeByte { pending := piece.reverse } lineFeed =
      endLine { pending := piece.reverse } := rfl
  rw [readAll_cons, takeSegment_append, takeSegment_of_not_mem h, List.append_nil, List.nil_append,
    takeSegment_cons, hend, endLine_reverse]
  split
  · rw [readAll_cons, List.append_assoc]
  · rw [takeSegment_of_broken rfl]
    rfl

end StreamReader

theorem IsSplit.readAll_eq (h : IsSplit bytes pieces rest) :
    StreamReader.readAll {} [bytes] =
      ((pieces ++ [rest]).takeWhile isText).filterMap pieceLine? := by
  obtain ⟨rfl, hpieces, hrest⟩ := h
  induction pieces with
  | nil =>
    rw [joinLines_nil, List.nil_append, StreamReader.readAll_last hrest, List.nil_append,
      List.takeWhile_cons]
    split
    · cases h : pieceLine? rest <;> simp [h]
    · rfl
  | cons piece pieces ih =>
    obtain ⟨hpiece, hpieces⟩ := List.forall_mem_cons.mp hpieces
    rw [joinLines_cons, List.append_assoc, List.cons_append, StreamReader.readAll_line hpiece,
      ih hpieces, List.cons_append, List.takeWhile_cons]
    split
    · rw [List.filterMap_cons]
      cases pieceLine? piece <;> rfl
    · rfl

/-- **A connection gives the lines of the pieces in front of the first one that is no text.** -/
theorem streamLines_eq (segments : List (List UInt8)) : streamLines segments =
    ((splitLines segments.flatten).takeWhile isText).filterMap pieceLine? := by
  obtain ⟨pieces, rest, h⟩ := exists_isSplit segments.flatten
  rw [streamLines, StreamReader.readAll_flatten, h.readAll_eq, h.splitLines_eq]

/-! ## The two compared -/

theorem filterMap_takeWhile_eq_iff {α β : Type} {p : α → Bool} {f : α → Option β}
    (hf : ∀ x, ¬ p x → (f x).isSome) {l : List α} :
    (l.takeWhile p).filterMap f = l.filterMap f ↔ ∀ x ∈ l, p x := by
  induction l with
  | nil => simp
  | cons x l ih =>
    rw [List.forall_mem_cons, List.takeWhile_cons]
    split
    · next hx =>
      rw [← ih]
      cases h : f x <;> simp [h, hx]
    · next hx =>
      obtain ⟨y, hy⟩ := Option.isSome_iff_exists.mp (hf x hx)
      simp [hy, hx]

/-- A connection gives the lines of a datagram exactly if the bytes are a text. -/
theorem streamLines_eq_datagramLines_iff (segments : List (List UInt8)) :
    streamLines segments = datagramLines segments.flatten ↔ isText segments.flatten := by
  obtain ⟨pieces, rest, h⟩ := exists_isSplit segments.flatten
  rw [streamLines_eq, datagramLines_eq,
    filterMap_takeWhile_eq_iff fun _ => isSome_pieceLine?_of_not_isText, h.splitLines_eq, h.isText_iff]

namespace SocketSource

theorem pushed_datagram (message : List UInt8) :
    pushed (Traffic.datagrams [message]).actions = datagramLines message := by
  rw [Traffic.actions, List.flatMap_singleton, pushed_map_push]

theorem pushed_peer (segments : List (List UInt8)) :
    pushed (Traffic.peer segments).actions = streamLines segments := by
  rw [Traffic.actions, pushed_append, pushed_map_push]
  exact List.append_nil _

theorem pushed_client (segments : List (List UInt8)) :
    pushed (Traffic.clients [segments]).actions = streamLines segments := by
  rw [Traffic.actions, List.flatMap_singleton, pushed_map_push]

/-- Polls that leave no line behind have returned the lines that the reader appended. -/
theorem delivered_of_buffer_eq_nil {actions arrival : List Action}
    (harrival : actions.filter Action.isReading = arrival)
    (hpolled : ((opened {}).run actions).buffer = []) :
    ((opened {}).run actions).delivered = pushed arrival := by
  have hlines := run_lines (opened {}) actions
  rw [hpolled, List.append_nil] at hlines
  rw [hlines, ← harrival, pushed_filter_isReading]
  rfl

/-- **Polls return the same lines of a datagram and of a connection exactly if the bytes are a text.** Of a
datagram they return the lines of all pieces between line feeds; of a connection, in whatever segments its
bytes come, those of the pieces in front of the first one that is no text. -/
theorem arrivals_agree_iff {segments : List (List UInt8)} {datagram stream : List Action}
    (hdatagram : datagram.filter Action.isReading =
      (Traffic.datagrams [segments.flatten]).actions)
    (hstream : stream.filter Action.isReading = (Traffic.peer segments).actions ∨
      stream.filter Action.isReading = (Traffic.clients [segments]).actions)
    (hdatagramPolled : ((opened {}).run datagram).buffer = [])
    (hstreamPolled : ((opened {}).run stream).buffer = []) :
    ((opened {}).run datagram).delivered = (splitLines segments.flatten).filterMap pieceLine? ∧
      ((opened {}).run stream).delivered =
        ((splitLines segments.flatten).takeWhile isText).filterMap pieceLine? ∧
      (((opened {}).run stream).delivered = ((opened {}).run datagram).delivered ↔
        isText segments.flatten) := by
  have hall : ((opened {}).run datagram).delivered = datagramLines segments.flatten := by
    rw [delivered_of_buffer_eq_nil hdatagram hdatagramPolled, pushed_datagram]
  have hfront : ((opened {}).run stream).delivered = streamLines segments := by
    rcases hstream with hstream | hstream
    · rw [delivered_of_buffer_eq_nil hstream hstreamPolled, pushed_peer]
    · rw [delivered_of_buffer_eq_nil hstream hstreamPolled, pushed_client]
  rw [hall, hfront]
  exact ⟨datagramLines_eq _, streamLines_eq _, streamLines_eq_datagramLines_iff _⟩

/-- All of the traffic arrives, and then a poll takes it. -/
def arriveThenPoll (traffic : Traffic) : List Action :=
  traffic.actions ++ [.drain]

/-- A line, an empty one, one that is no text, and a last one without a line feed. -/
def mixedSegments : List (List UInt8) :=
  [[0x61, 0x0D], [0x0A, 0x0A, 0xFF], [0x0A, 0x62]]

theorem arrivals_agree_iff_mixedSegments :
    ((opened {}).run (arriveThenPoll (.datagrams [mixedSegments.flatten]))).delivered =
        ["a", "\uFFFD", "b"] ∧
      ((opened {}).run (arriveThenPoll (.clients [mixedSegments]))).delivered = ["a"] ∧
      (((opened {}).run (arriveThenPoll (.clients [mixedSegments]))).delivered =
          ((opened {}).run (arriveThenPoll (.datagrams [mixedSegments.flatten]))).delivered ↔
        isText mixedSegments.flatten) := by
  have hdatagram : (arriveThenPoll (.datagrams [mixedSegments.flatten])).filter Action.isReading =
      (Traffic.datagrams [mixedSegments.flatten]).actions := by decide +kernel
  have hstream : (arriveThenPoll (.clients [mixedSegments])).filter Action.isReading =
      (Traffic.clients [mixedSegments]).actions := by decide +kernel
  obtain ⟨hall, hfront, hagree⟩ :=
    arrivals_agree_iff hdatagram (.inr hstream) (by decide +kernel) (by decide +kernel)
  exact ⟨hall.trans (by decide +kernel), hfront.trans (by decide +kernel), hagree⟩

/-- **A line that is no text comes out of a datagram and is missing from a connection.** -/
theorem not_agree_malformedLine :
    ((opened {}).run (arriveThenPoll (.datagrams [[0xFF, 0x0A]]))).delivered = ["\uFFFD"] ∧
      ((opened {}).run (arriveThenPoll (.peer [[0xFF, 0x0A]]))).delivered = [] ∧
      ((opened {}).run (arriveThenPoll (.peer [[0xFF, 0x0A]]))).buffer = [] := by
  decide +kernel

end SocketSource

end LogIntake
