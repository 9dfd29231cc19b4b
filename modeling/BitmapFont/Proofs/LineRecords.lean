import BitmapFont.Proofs.CursorPrograms
import BitmapFont.Proofs.CursorScans
import BitmapFont.Proofs.FallibleSteps
import BitmapFont.Proofs.SinkEncoding

/-!
# Records of lines

The lines of a source that are examined are those from the one its leading space
ends in to the last.  Each of them is accounted for once: by a record that it has no
row, by a record of its packed row, or by the refusal of its row, of which nothing is
recorded.

The row cursor works through these lines, so what it has recorded at any moment are
the records of the lines through the one it has reached.  An encoding that stops early
has recorded the lines before the one that stopped it, and this one too unless its row
was refused.
-/

namespace BitmapFont

open Text

/-! ## What a record says -/

def Event.line? : Event → Option Nat
  | noRow line => some line
  | packed line _ _ => some line
  | _ => none

def Event.packedByte? : Event → Option UInt8
  | packed _ _ byte => some byte
  | _ => none

def refusedLine? : RowItem → Option Nat
  | .ok _ => none
  | .error error => some error.line

/-! ## Examined lines -/

/-- A line on which a row is looked for under a policy. -/
structure ExaminedLine where
  number : Nat
  line : List Char
  policy : WidthPolicy
  deriving Repr, DecidableEq

namespace ExaminedLine

def token? (examined : ExaminedLine) : Option RowToken :=
  RowToken.ofLine? examined.number examined.line

def item? (examined : ExaminedLine) : Option RowItem :=
  examined.token?.map (·.pack examined.policy)

def record? (examined : ExaminedLine) : Option Event :=
  match examined.token? with
  | none => some (.noRow examined.number)
  | some token =>
      match token.pack examined.policy with
      | .ok byte => some (.packed examined.number token.markers byte)
      | .error _ => none

theorem item?_of_no_token
    {examined : ExaminedLine} (htoken : examined.token? = none) : examined.item? = none := by
  rw [item?, htoken, Option.map_none]

theorem record?_of_no_token
    {examined : ExaminedLine} (htoken : examined.token? = none) :
    examined.record? = some (.noRow examined.number) := by
  simp only [record?, htoken]

theorem item?_of_token
    {examined : ExaminedLine} {token : RowToken} {row : RowItem}
    (htoken : examined.token? = some token) (hpack : token.pack examined.policy = row) :
    examined.item? = some row := by
  rw [item?, htoken, Option.map_some, hpack]

theorem record?_of_packed
    {examined : ExaminedLine} {token : RowToken} {byte : UInt8}
    (htoken : examined.token? = some token) (hpack : token.pack examined.policy = .ok byte) :
    examined.record? = some (.packed examined.number token.markers byte) := by
  simp only [record?, htoken, hpack]

theorem record?_of_refused
    {examined : ExaminedLine} {token : RowToken} {error : WidthError}
    (htoken : examined.token? = some token) (hpack : token.pack examined.policy = .error error) :
    examined.record? = none := by
  simp only [record?, htoken, hpack]

/-- What a line comes to: it has no row, or a row that is packed, or one that is
refused.  The first two are recorded. -/
inductive Outcome (examined : ExaminedLine) : Prop
  | noRow
      (item : examined.item? = none)
      (record : examined.record? = some (.noRow examined.number))
  | packed (byte : UInt8)
      (item : examined.item? = some (.ok byte))
      (record : examined.record? =
        some (.packed examined.number (examined.line.takeWhile isMarker) byte))
  | refused (error : WidthError)
      (place : error.line = examined.number)
      (item : examined.item? = some (.error error))
      (record : examined.record? = none)

theorem outcome (examined : ExaminedLine) : examined.Outcome := by
  obtain ⟨number, line, policy⟩ := examined
  cases hmarkers : line.takeWhile isMarker with
  | nil =>
      have htoken : (mk number line policy).token? = none := by
        rw [token?, RowToken.ofLine?, hmarkers]
      exact .noRow (item?_of_no_token htoken) (record?_of_no_token htoken)
  | cons c markers =>
      have htoken : (mk number line policy).token? = some ⟨number, c :: markers⟩ := by
        rw [token?, RowToken.ofLine?, hmarkers]
      cases hpack : (RowToken.mk number (c :: markers)).pack policy with
      | ok byte =>
          have hrecord := record?_of_packed htoken hpack
          rw [← hmarkers] at hrecord
          exact .packed byte (item?_of_token htoken hpack) hrecord
      | error error =>
          have hplace : error.line = number :=
            congrArg WidthError.line (RowToken.refused_of_pack hpack).2
          exact .refused error hplace (item?_of_token htoken hpack)
            (record?_of_refused htoken hpack)

def recordedNumber? (examined : ExaminedLine) : Option Nat :=
  examined.record?.bind Event.line?

def refusedNumber? (examined : ExaminedLine) : Option Nat :=
  examined.item?.bind refusedLine?

/-- Each line is accounted for by its record or by its refusal, and not by both. -/
theorem recorded_or_refused (examined : ExaminedLine) :
    (examined.recordedNumber? = some examined.number ∧ examined.refusedNumber? = none) ∨
      (examined.recordedNumber? = none ∧ examined.refusedNumber? = some examined.number) := by
  unfold recordedNumber? refusedNumber?
  cases examined.outcome with
  | noRow hitem hrecord => simp [hitem, hrecord, Event.line?]
  | packed byte hitem hrecord => simp [hitem, hrecord, Event.line?, refusedLine?]
  | refused error hplace hitem hrecord => simp [hitem, hrecord, refusedLine?, hplace]

theorem packedByte?_record? (examined : ExaminedLine) :
    examined.record?.bind Event.packedByte? = examined.item?.bind Except.toOption := by
  cases examined.outcome with
  | noRow hitem hrecord => simp [hitem, hrecord, Event.packedByte?]
  | packed byte hitem hrecord => simp [hitem, hrecord, Event.packedByte?, Except.toOption]
  | refused error hplace hitem hrecord => simp [hitem, hrecord, Except.toOption]

end ExaminedLine

/-- The lines of a source from the one in which its leading space ends.  That one is
examined without the space it begins with. -/
def examinedLines (policy : WidthPolicy) (text : List Char) : List ExaminedLine :=
  let examined := ((lines text).drop (blankBreaks text)).modifyHead (·.dropWhile isLeadingSpace)
  (examined.zipIdx (blankBreaks text + 1)).map fun (line, number) => ⟨number, line, policy⟩

theorem numbers_examinedLines (policy : WidthPolicy) (text : List Char) :
    (examinedLines policy text).map ExaminedLine.number =
      List.range' (blankBreaks text + 1) (breakCount text + 1 - blankBreaks text) := by
  have hnumbers :
      (examinedLines policy text).map ExaminedLine.number =
        ((((lines text).drop (blankBreaks text)).modifyHead
          (·.dropWhile isLeadingSpace)).zipIdx (blankBreaks text + 1)).map Prod.snd := by
    rw [examinedLines, List.map_map]
    rfl
  rw [hnumbers, List.zipIdx_map_snd, List.length_modifyHead, List.length_drop, length_lines]

/-- What is examined as a line is that line of the source, the first without the
space it begins with. -/
theorem getElem?_lines_of_mem_examinedLines
    {policy : WidthPolicy} {text : List Char} {examined : ExaminedLine}
    (hexamined : examined ∈ examinedLines policy text) :
    ∃ line,
      (lines text)[examined.number - 1]? = some line ∧
      examined.line =
        if examined.number = blankBreaks text + 1 then line.dropWhile isLeadingSpace else line := by
  obtain ⟨⟨first, number⟩, hmem, rfl⟩ := List.mem_map.mp hexamined
  obtain ⟨hnumber, hfirst⟩ := List.mk_mem_zipIdx_iff_le_and_getElem?_sub.mp hmem
  rw [List.getElem?_modifyHead, List.getElem?_drop] at hfirst
  have hplace : blankBreaks text + (number - (blankBreaks text + 1)) = number - 1 := by omega
  rw [hplace] at hfirst
  by_cases hopening : number = blankBreaks text + 1
  · have hzero : number - (blankBreaks text + 1) = 0 := by omega
    rw [if_pos hzero] at hfirst
    obtain ⟨line, hline, hstripped⟩ := Option.map_eq_some_iff.mp hfirst
    exact ⟨line, hline, by rw [if_pos hopening, hstripped]⟩
  · have hlater : number - (blankBreaks text + 1) ≠ 0 := by omega
    rw [if_neg hlater] at hfirst
    exact ⟨first, hfirst, by rw [if_neg hopening]⟩

/-! ## The cursor at work -/

namespace RowCursor

def pending (cursor : RowCursor) : List ExaminedLine :=
  (cursor.lines.toList.zipIdx (cursor.lineNumber + 1)).map fun (line, number) =>
    ⟨number, line, cursor.policy⟩

theorem pending_of_next
    {cursor : RowCursor} {line : List Char} {lines : LineCursor}
    (hline : cursor.lines.next = some (line, lines)) :
    cursor.pending = ⟨cursor.lineNumber + 1, line, cursor.policy⟩ ::
      pending { cursor with lines, lineNumber := cursor.lineNumber + 1 } := by
  rw [pending, LineCursor.toList_of_next_eq_some hline]
  rfl

theorem nextFrom_scanned (cursor : RowCursor) (log : Array Event) :
    Cursor.Scanned pending ExaminedLine.item? ExaminedLine.record? cursor.pending log.toList
      (cursor.nextFrom .wide log) := by
  fun_induction nextFrom .wide cursor log with
  | case1 cursor log hline =>
      have hspent : cursor.pending = [] := by
        rw [pending, LineCursor.toList_of_next_eq_none hline]
        rfl
      exact .ended (by simp [hspent]) hspent (by simp [hspent])
  | case2 cursor log line lines hline number after hrow ih =>
      have hpending : cursor.pending = ⟨number, line, cursor.policy⟩ :: after.pending :=
        pending_of_next hline
      have htoken : (ExaminedLine.mk number line cursor.policy).token? = none := hrow
      have hrecord := ExaminedLine.record?_of_no_token htoken
      rw [hpending]
      apply Cursor.Scanned.cons _ (ExaminedLine.item?_of_no_token htoken)
      rwa [List.filterMap_cons_some hrecord, List.filterMap_nil, ← Array.toList_push,
        ← Gate.report_wide]
  | case3 cursor log line lines hline number after token hrow byte hpack =>
      have htoken : (ExaminedLine.mk number line cursor.policy).token? = some token := hrow
      have hrecord := ExaminedLine.record?_of_packed htoken hpack
      refine .found [] _ (pending_of_next hline) (by simp)
        (ExaminedLine.item?_of_token htoken hpack) ?_
      rw [List.nil_append, List.filterMap_cons_some hrecord, List.filterMap_nil,
        Gate.report_wide, Array.toList_push]
  | case4 cursor log line lines hline number after token hrow error hpack =>
      have htoken : (ExaminedLine.mk number line cursor.policy).token? = some token := hrow
      have hrecord := ExaminedLine.record?_of_refused htoken hpack
      refine .found [] _ (pending_of_next hline) (by simp)
        (ExaminedLine.item?_of_token htoken hpack) ?_
      rw [List.nil_append, List.filterMap_cons_none hrecord, List.filterMap_nil,
        List.append_nil]

theorem scan : Cursor.Scan pending ExaminedLine.item? ExaminedLine.record? :=
  fun cursor => cursor.nextFrom_scanned #[]

theorem pending_ofText (text : List Char) (policy : WidthPolicy) :
    (ofText text policy).pending = examinedLines policy text := by
  have hpos := List.length_pos_iff.mpr (lines_ne_nil (text.takeWhile isLeadingSpace))
  have hnumber :
      (LineCursor.ofText (text.takeWhile isLeadingSpace)).count - 1 + 1 = blankBreaks text + 1 := by
    rw [LineCursor.count_ofText, Nat.sub_add_cancel hpos, length_lines, blankBreaks]
  rw [pending, examinedLines, stripped_lines]
  simp only [ofText, LineCursor.toList_ofText, hnumber]

end RowCursor

/-- The examined lines have the rows of the source on them. -/
theorem filterMap_token?_examinedLines (policy : WidthPolicy) (text : List Char) :
    (examinedLines policy text).filterMap ExaminedLine.token? = sourceTokens text := by
  rw [sourceTokens_eq, tokensFrom, examinedLines, stripped_lines, List.filterMap_map]
  rfl

theorem items_eq_examinedLines (policy : WidthPolicy) (text : List Char) :
    Cursor.items (RowCursor.ofText text policy) =
      (examinedLines policy text).filterMap ExaminedLine.item? := by
  rw [RowCursor.scan.listing.items_eq, RowCursor.pending_ofText]

/-! ## Records through a line -/

/-- The records of a source that is examined to its end. -/
def lineRecords (policy : WidthPolicy) (text : List Char) : List Event :=
  (examinedLines policy text).filterMap ExaminedLine.record?

/-- The records of the lines whose numbers do not exceed a number. -/
def recordsThrough (policy : WidthPolicy) (text : List Char) (number : Nat) : List Event :=
  ((examinedLines policy text).filter (·.number ≤ number)).filterMap ExaminedLine.record?

theorem pairwise_examinedLines (policy : WidthPolicy) (text : List Char) :
    (examinedLines policy text).Pairwise fun line other => line.number < other.number := by
  rw [← List.pairwise_map, numbers_examinedLines]
  exact List.pairwise_lt_range'

theorem number_mem_range
    {policy : WidthPolicy} {text : List Char} {line : ExaminedLine}
    (hline : line ∈ examinedLines policy text) :
    blankBreaks text < line.number ∧ line.number ≤ breakCount text + 1 := by
  have hnumber := List.mem_map_of_mem (f := ExaminedLine.number) hline
  rw [numbers_examinedLines, List.mem_range'_1] at hnumber
  omega

section Split

variable {policy : WidthPolicy} {text : List Char} {before behind : List ExaminedLine}
  {line : ExaminedLine}

theorem lt_of_split (hsplit : examinedLines policy text = before ++ line :: behind) :
    (∀ other ∈ before, other.number < line.number) ∧
      ∀ other ∈ behind, line.number < other.number := by
  have hpairs := pairwise_examinedLines policy text
  rw [hsplit, List.pairwise_append, List.pairwise_cons] at hpairs
  obtain ⟨-, ⟨hbehind, -⟩, hbefore⟩ := hpairs
  exact ⟨fun other hother => hbefore other hother line List.mem_cons_self, hbehind⟩

theorem recordsThrough_of_split
    (hsplit : examinedLines policy text = before ++ line :: behind) :
    recordsThrough policy text line.number =
      (before ++ [line]).filterMap ExaminedLine.record? := by
  obtain ⟨hbefore, hbehind⟩ := lt_of_split hsplit
  have hkept : before.filter (·.number ≤ line.number) = before :=
    List.filter_eq_self.mpr fun other hother => by
      simpa using Nat.le_of_lt (hbefore other hother)
  have hcut : behind.filter (·.number ≤ line.number) = [] :=
    List.filter_eq_nil_iff.mpr fun other hother => by simpa using hbehind other hother
  rw [recordsThrough, hsplit, List.filter_append, hkept,
    List.filter_cons_of_pos (by simp), hcut]

theorem recordsThrough_pred_of_split
    (hsplit : examinedLines policy text = before ++ line :: behind) :
    recordsThrough policy text (line.number - 1) = before.filterMap ExaminedLine.record? := by
  obtain ⟨hbefore, hbehind⟩ := lt_of_split hsplit
  have hline : line ∈ examinedLines policy text := by simp [hsplit]
  have hpos : 0 < line.number := Nat.zero_lt_of_lt (number_mem_range hline).1
  have hkept : before.filter (·.number ≤ line.number - 1) = before :=
    List.filter_eq_self.mpr fun other hother => by
      have hlt := hbefore other hother
      simp only [decide_eq_true_eq]
      omega
  have hcut : (line :: behind).filter (·.number ≤ line.number - 1) = [] := by
    refine List.filter_eq_nil_iff.mpr (List.forall_mem_cons.mpr ⟨?_, fun other hother => ?_⟩)
    · simp only [decide_eq_true_eq]
      omega
    · have hlt := hbehind other hother
      simp only [decide_eq_true_eq]
      omega
  rw [recordsThrough, hsplit, List.filter_append, hkept, hcut, List.append_nil]

end Split

theorem recordsThrough_blankBreaks (policy : WidthPolicy) (text : List Char) :
    recordsThrough policy text (blankBreaks text) = [] := by
  have hnone : (examinedLines policy text).filter (·.number ≤ blankBreaks text) = [] :=
    List.filter_eq_nil_iff.mpr fun line hline => by simpa using (number_mem_range hline).1
  rw [recordsThrough, hnone, List.filterMap_nil]

theorem recordsThrough_last (policy : WidthPolicy) (text : List Char) :
    recordsThrough policy text (breakCount text + 1) = lineRecords policy text := by
  have hall : (examinedLines policy text).filter (·.number ≤ breakCount text + 1) =
      examinedLines policy text :=
    List.filter_eq_self.mpr fun line hline => by simpa using (number_mem_range hline).2
  rw [recordsThrough, hall, lineRecords]

example :
    lineRecords .lenient ['\n', ' ', '@', '\n', 'x'] = [.packed 2 ['@'] 1, .noRow 3] := by
  decide

/-! ## Requests -/

/-- The lines that have an item, in order. -/
def itemLines (policy : WidthPolicy) (text : List Char) : List ExaminedLine :=
  (examinedLines policy text).filter (Cursor.hasItem ExaminedLine.item?)

/-- The number of the line that so many requests reach: that of the item handed out
last, or of the last line of the source once there are no more items. -/
def lineReached (policy : WidthPolicy) (text : List Char) : Nat → Nat
  | 0 => blankBreaks text
  | requests + 1 =>
      match (itemLines policy text)[requests]? with
      | some line => line.number
      | none => breakCount text + 1

theorem through_eq_recordsThrough (policy : WidthPolicy) (text : List Char) (requests : Nat) :
    (Cursor.through (Cursor.hasItem ExaminedLine.item?) requests
        (examinedLines policy text)).filterMap ExaminedLine.record? =
      recordsThrough policy text (lineReached policy text requests) := by
  cases requests with
  | zero =>
      rw [Cursor.through_zero, List.filterMap_nil, lineReached, recordsThrough_blankBreaks]
  | succ requests =>
      rw [lineReached]
      cases hline : (itemLines policy text)[requests]? with
      | none => rw [Cursor.through_eq_self hline, recordsThrough_last, lineRecords]
      | some line =>
          obtain ⟨before, behind, hsplit, hthrough⟩ := Cursor.through_eq hline
          rw [hthrough, recordsThrough_of_split hsplit]

/-! ## Encodings that stop -/

/-- An encoding takes the examined lines one by one. -/
theorem encodeWith_eq_feedEntries (policy : WidthPolicy) (text : List Char) :
    encodeWith policy text =
      let fed := Cursor.feedEntries ExaminedLine.item? ExaminedLine.record?
        (fun (blob : Array UInt8) (item : RowItem) => item.map blob.push) #[]
        (examinedLines policy text)
      ⟨fed.value.map Array.toList, fed.events⟩ := by
  rw [encodeWith, encodeRows, RowCursor.scan.feed_eq, RowCursor.pending_ofText]

theorem encodeInto_eq_feedEntries (policy : WidthPolicy) (text : List Char) (sink : Sink) :
    encodeInto policy text sink =
      Cursor.feedEntries ExaminedLine.item? ExaminedLine.record? Written.push ⟨0, sink⟩
        (examinedLines policy text) := by
  rw [encodeInto, writeRows, RowCursor.scan.feed_eq, RowCursor.pending_ofText]

/-- A refused row has left the records of the lines before its own. -/
theorem encodeWith_events_of_error
    {policy : WidthPolicy} {text : List Char} {error : WidthError}
    (hvalue : (encodeWith policy text).value = .error error) :
    (encodeWith policy text).events = recordsThrough policy text (error.line - 1) := by
  rw [encodeWith_eq_feedEntries] at hvalue ⊢
  obtain ⟨before, line, behind, item, reached, hsplit, hitem, -, hfails, hevents⟩ :=
    Cursor.split_of_feedEntries_error (error_of_map_eq_error hvalue)
  obtain rfl := error_of_map_eq_error hfails
  cases line.outcome with
  | noRow hnone => simp [hnone] at hitem
  | packed byte hpacked => simp [hpacked] at hitem
  | refused other hplace hrefused hrecord =>
      obtain rfl : other = error := by simpa [hrefused] using hitem
      rw [hevents, hplace, recordsThrough_pred_of_split hsplit, List.filterMap_append,
        List.filterMap_cons_none hrecord, List.filterMap_nil, List.append_nil]

namespace Sink

theorem size_append (written : Array UInt8) (bytes : List UInt8) :
    (written ++ bytes).size = written.size + bytes.length := by
  rw [← Array.length_toList, Array.toList_appendList, List.length_append, Array.length_toList]

theorem size_of_write_ok
    {sink after : Sink} {bytes : List UInt8} (hwrite : sink.write bytes = .ok after) :
    after.written.size = sink.written.size + bytes.length := by
  unfold write at hwrite
  split at hwrite
  · rw [← Except.ok.inj hwrite]
    exact size_append _ _
  · dsimp only at hwrite
    split at hwrite
    · rw [← Except.ok.inj hwrite]
      exact size_append _ _
    · contradiction

/-- A single byte that does not fit leaves nothing behind. -/
theorem size_of_write_byte_error
    {sink after : Sink} {byte : UInt8} (hwrite : sink.write [byte] = .error after) :
    after.written.size = sink.written.size := by
  unfold write at hwrite
  split at hwrite
  · contradiction
  · rename_i capacity hcapacity
    dsimp only at hwrite
    split at hwrite
    · contradiction
    · rename_i hfull
      have hroom : capacity - sink.written.size = 0 := by
        rw [List.length_singleton] at hfull
        omega
      rw [← Except.error.inj hwrite, hroom]
      exact size_append _ _

end Sink

theorem filterMap_packedByte? (examined : List ExaminedLine) :
    (examined.filterMap ExaminedLine.record?).filterMap Event.packedByte? =
      (examined.filterMap ExaminedLine.item?).filterMap Except.toOption := by
  rw [List.filterMap_filterMap, List.filterMap_filterMap]
  exact List.filterMap_congr fun line _ => line.packedByte?_record?

/-- Rows that have all been written are bytes, and the sink has grown by them. -/
theorem size_of_foldlM_push
    {items : List RowItem} {start reached : Written}
    (hreached : items.foldlM Written.push start = .ok reached) :
    reached.sink.written.size =
      start.sink.written.size + (items.filterMap Except.toOption).length := by
  induction items generalizing start with
  | nil =>
      obtain rfl := Except.ok.inj hreached
      rfl
  | cons item items ih =>
      rw [List.foldlM_cons] at hreached
      cases item with
      | error error => contradiction
      | ok byte =>
          cases hwrite : start.sink.write [byte] with
          | error sink =>
              simp only [Written.push, hwrite] at hreached
              contradiction
          | ok sink =>
              simp only [Written.push, hwrite] at hreached
              have hsize : sink.written.size = start.sink.written.size + 1 :=
                Sink.size_of_write_ok hwrite
              have hrest := ih hreached
              simp only [hsize] at hrest
              simp only [hrest, Except.toOption, List.filterMap_cons, List.length_cons]
              omega

/-- Where the sink is full, the row whose write has failed is recorded like the rows
that have been written. -/
theorem encodeInto_events_of_full
    {policy : WidthPolicy} {text : List Char} {start sink : Sink}
    (hvalue : (encodeInto policy text start).value = .error (.full, sink)) :
    ((encodeInto policy text start).events.filterMap Event.packedByte?).length +
        start.written.size =
      sink.written.size + 1 := by
  rw [encodeInto_eq_feedEntries] at hvalue ⊢
  obtain ⟨before, line, behind, item, reached, hsplit, hitem, hreached, hfails, hevents⟩ :=
    Cursor.split_of_feedEntries_error hvalue
  have hsize :
      reached.sink.written.size =
        start.written.size +
          ((before.filterMap ExaminedLine.item?).filterMap Except.toOption).length :=
    size_of_foldlM_push hreached
  cases item with
  | error error => simp [Written.push] at hfails
  | ok byte =>
      cases hwrite : reached.sink.write [byte] with
      | ok after => simp [Written.push, hwrite] at hfails
      | error after =>
          obtain rfl : after = sink := by simpa [Written.push, hwrite] using hfails
          have hlast := Sink.size_of_write_byte_error hwrite
          rw [hevents, filterMap_packedByte?, List.filterMap_append, List.filterMap_append,
            List.filterMap_cons_some hitem]
          simp only [Except.toOption, List.filterMap_nil, List.filterMap_cons,
            List.length_append, List.length_singleton]
          omega

/-! ## The account -/

theorem perm_numbers (examined : List ExaminedLine) :
    ((examined.filterMap ExaminedLine.record?).filterMap Event.line? ++
        (examined.filterMap ExaminedLine.item?).filterMap refusedLine?).Perm
      (examined.map ExaminedLine.number) := by
  rw [List.filterMap_filterMap, List.filterMap_filterMap]
  change (examined.filterMap ExaminedLine.recordedNumber? ++
    examined.filterMap ExaminedLine.refusedNumber?).Perm _
  induction examined with
  | nil => rfl
  | cons line examined ih =>
      rw [List.map_cons]
      rcases line.recorded_or_refused with ⟨hrecorded, hpacked⟩ | ⟨hsilent, hrefused⟩
      · rw [List.filterMap_cons_some hrecorded, List.filterMap_cons_none hpacked]
        exact ih.cons line.number
      · rw [List.filterMap_cons_none hsilent, List.filterMap_cons_some hrefused]
        exact List.perm_middle.trans (ih.cons line.number)

theorem sublist_numbers (examined : List ExaminedLine) :
    ((examined.filterMap ExaminedLine.record?).filterMap Event.line?).Sublist
      (examined.map ExaminedLine.number) := by
  rw [List.filterMap_filterMap]
  change (examined.filterMap ExaminedLine.recordedNumber?).Sublist _
  induction examined with
  | nil => exact List.Sublist.refl []
  | cons line examined ih =>
      rw [List.map_cons]
      rcases line.recorded_or_refused with ⟨hrecorded, -⟩ | ⟨hsilent, -⟩
      · rw [List.filterMap_cons_some hrecorded]
        exact ih.cons_cons line.number
      · rw [List.filterMap_cons_none hsilent]
        exact ih.cons line.number

/-- The records of a source are of two kinds. -/
theorem lineRecords_cases
    {policy : WidthPolicy} {text : List Char} {event : Event}
    (hevent : event ∈ lineRecords policy text) :
    ∃ line ∈ examinedLines policy text,
      event = .noRow line.number ∨
        ∃ byte, event = .packed line.number (line.line.takeWhile isMarker) byte := by
  obtain ⟨line, hline, hrecord⟩ := List.mem_filterMap.mp hevent
  refine ⟨line, hline, ?_⟩
  cases line.outcome with
  | noRow hitem hnone => exact .inl (Option.some.inj (hrecord.symm.trans hnone))
  | packed byte hitem hpacked =>
      exact .inr ⟨byte, Option.some.inj (hrecord.symm.trans hpacked)⟩
  | refused error hplace hitem hsilent =>
      rw [hsilent] at hrecord
      contradiction

/-- How the lines of a source are accounted for by what is recorded of them and by
the rows that are refused. -/
structure LinesRecorded (policy : WidthPolicy) (text : List Char) : Prop where
  drained : (Cursor.collect (RowCursor.ofText text policy)).events = lineRecords policy text
  increasing : ((lineRecords policy text).filterMap Event.line?).Pairwise (· < ·)
  complete :
    ((lineRecords policy text).filterMap Event.line? ++
        (Cursor.items (RowCursor.ofText text policy)).filterMap refusedLine?).Perm
      (List.range' (blankBreaks text + 1) (breakCount text + 1 - blankBreaks text))
  packed :
    (lineRecords policy text).filterMap Event.packedByte? =
      (Cursor.items (RowCursor.ofText text policy)).filterMap Except.toOption
  markers : ∀ number markers byte,
    .packed number markers byte ∈ lineRecords policy text →
    ∃ line,
      (lines text)[number - 1]? = some line ∧
      markers =
        (if number = blankBreaks text + 1 then line.dropWhile isLeadingSpace
          else line).takeWhile isMarker
  messages : ∀ event ∈ lineRecords policy text,
    (∃ number, event = .noRow number ∧ event.message = s!"line {number}: no glyph row") ∨
      ∃ number markers byte high low,
        event = .packed number markers byte ∧
        HexCase.lower.digits[byte.toNat / 16]? = some high ∧
        HexCase.lower.digits[byte.toNat % 16]? = some low ∧
        event.message =
          s!"line {number}: " ++ String.ofList markers ++ " => 0x" ++ String.ofList [high, low]
  lazy : ∀ requests,
    let pulled := Cursor.runOn (List.replicate requests .next) (RowCursor.ofText text policy)
    pulled.value = ((List.range requests).map fun place =>
        .item ((itemLines policy text)[place]?.bind ExaminedLine.item?)) ∧
      pulled.events = recordsThrough policy text (lineReached policy text requests)
  refused : ∀ error, (encodeWith policy text).value = .error error →
    (encodeWith policy text).events = recordsThrough policy text (error.line - 1)
  full : ∀ start sink, (encodeInto policy text start).value = .error (.full, sink) →
    ((encodeInto policy text start).events.filterMap Event.packedByte?).length +
        start.written.size =
      sink.written.size + 1

theorem linesRecorded (policy : WidthPolicy) (text : List Char) : LinesRecorded policy text where
  drained := by
    rw [RowCursor.scan.collect_events, RowCursor.pending_ofText, lineRecords]
  increasing := by
    refine List.Pairwise.sublist (sublist_numbers _) ?_
    rw [numbers_examinedLines]
    exact List.pairwise_lt_range'
  complete := by
    rw [items_eq_examinedLines, ← numbers_examinedLines policy]
    exact perm_numbers _
  packed := by
    rw [items_eq_examinedLines, lineRecords, filterMap_packedByte?]
  markers number markers byte hmem := by
    obtain ⟨examined, hexamined, hnone | ⟨other, hpacked⟩⟩ := lineRecords_cases hmem
    · contradiction
    · simp only [Event.packed.injEq] at hpacked
      obtain ⟨rfl, rfl, rfl⟩ := hpacked
      obtain ⟨line, hline, hstripped⟩ := getElem?_lines_of_mem_examinedLines hexamined
      exact ⟨line, hline, by rw [hstripped]⟩
  messages event hmem := by
    obtain ⟨examined, -, rfl | ⟨byte, rfl⟩⟩ := lineRecords_cases hmem
    · exact .inl ⟨_, rfl, rfl⟩
    · have hhigh : byte.toNat / 16 < 16 := by
        have hbyte := byte.toNat_lt
        omega
      have hlow : byte.toNat % 16 < 16 := Nat.mod_lt _ (by decide)
      refine .inr ⟨_, _, byte, _, _, rfl, HexCase.lower.getElem?_digits hhigh,
        HexCase.lower.getElem?_digits hlow, Event.message_packed _ _ byte⟩
  lazy requests := by
    refine ⟨?_, ?_⟩
    · have hvalue := RowCursor.scan.listing.run_value (List.replicate requests .next)
        [RowCursor.ofText text policy]
      rw [Cursor.runOn, hvalue, List.map_singleton, Cursor.runOnLists_replicate_next]
      simp only [RowCursor.pending_ofText, Cursor.getElem?_filterMap_item?, itemLines]
    · rw [Cursor.runOn, RowCursor.scan.run_next_events, RowCursor.pending_ofText,
        through_eq_recordsThrough]
  refused _ hvalue := encodeWith_events_of_error hvalue
  full _ _ hvalue := encodeInto_events_of_full hvalue

/-- Every line from the end of the leading space on is accounted for exactly once, by
a record or by a refusal, and no sooner than it is reached. -/
theorem lines_recorded_once (text : List Char) :
    (∀ policy, LinesRecorded policy text) ∧ encode text = encodeWith .lenient text :=
  ⟨fun policy => linesRecorded policy text, rfl⟩

end BitmapFont
