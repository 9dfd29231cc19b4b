import BitmapFont.Proofs.ByteText
import BitmapFont.Proofs.LineNumbers
import BitmapFont.Proofs.LineSplitting

/-!
# Scanning bytes

A source can be scanned in its bytes alone.  The scanner here is given bytes and cuts them
at indices that it computes: where the leading space ends, where a line and the break
behind it end, and where the markers at the start of a line do.  It counts markers in bytes
and the size of a break in bytes, and has no result as soon as an index is no boundary.

On the bytes of a text that never happens, and what the scanner has in bytes the row cursor
has in characters, in every state.
-/

namespace BitmapFont

open Text

/-! ## Lines in bytes -/

namespace Text

/-- The number of bytes of the break at the head of some bytes, the first character of
which is known. -/
def breakSize (bytes : List UInt8) (c : Char) : Nat :=
  if (encodeUtf8 ['\r', '\n']).isPrefixOf bytes then 2 else c.utf8Size

theorem breakSize_pos (bytes : List UInt8) (c : Char) : 0 < breakSize bytes c := by
  have hsize := c.utf8Size_pos
  unfold breakSize
  split <;> omega

theorem utf8Size_le_of_isLineBreak {c : Char} (hc : isLineBreak c = true) : c.utf8Size ≤ 3 := by
  simp only [isLineBreak, Bool.or_eq_true, beq_iff_eq] at hc
  rcases hc with (((((((((rfl | rfl) | rfl) | rfl) | rfl) | rfl) | rfl) | rfl) | rfl) | rfl)
  all_goals decide

theorem breakSize_le
    {c : Char} (bytes : List UInt8) (hc : isLineBreak c = true) : breakSize bytes c ≤ 3 := by
  have hsize := utf8Size_le_of_isLineBreak hc
  unfold breakSize
  split <;> omega

/-- A break is as many bytes long as its characters are. -/
theorem exists_break (c : Char) (rest : List Char) :
    ∃ brk, c :: rest = brk ++ dropBreak (c :: rest) ∧
      breakSize (encodeUtf8 (c :: rest)) c = (encodeUtf8 brk).length := by
  have hpair : (encodeUtf8 ['\r', '\n']).isPrefixOf (encodeUtf8 (c :: rest)) = true ↔
      ['\r', '\n'] <+: c :: rest := by
    rw [List.isPrefixOf_iff_prefix, encodeUtf8_prefix_iff]
  refine ⟨(c :: rest).take (if ['\r', '\n'] <+: c :: rest then 2 else 1), ?_, ?_⟩
  · rw [← drop_eq_dropBreak, List.take_append_drop]
  · unfold breakSize
    by_cases hreturn : ['\r', '\n'] <+: c :: rest
    · obtain ⟨behind, hbehind⟩ := hreturn
      rw [if_pos (hpair.mpr ⟨behind, hbehind⟩), if_pos ⟨behind, hbehind⟩, ← hbehind]
      rfl
    · rw [if_neg (mt hpair.mp hreturn), if_neg hreturn, ← String.length_utf8EncodeChar]
      simp [encodeUtf8_cons]

theorem breakSize_mem
    {c : Char} (bytes : List UInt8) (hc : isLineBreak c = true) :
    breakSize bytes c ∈ [1, 2, 3] := by
  have hpos := breakSize_pos bytes c
  have hle := breakSize_le bytes hc
  simp only [List.mem_cons, List.not_mem_nil, or_false]
  omega

theorem sliceFrom?_breakSize (c : Char) (rest : List Char) :
    sliceFrom? (encodeUtf8 (c :: rest)) (breakSize (encodeUtf8 (c :: rest)) c) =
      some (encodeUtf8 (dropBreak (c :: rest))) := by
  obtain ⟨brk, hbreak, hsize⟩ := exists_break c rest
  have hslice := sliceFrom?_append brk (dropBreak (c :: rest))
  rwa [← hbreak, ← hsize] at hslice

/-- What follows the last break taken, in bytes. -/
structure ByteLines where
  rest : Option (List UInt8)
  deriving Repr, DecidableEq

namespace ByteLines

def next? (cursor : ByteLines) : Option (Option (List UInt8 × ByteLines)) :=
  match cursor.rest with
  | none => some none
  | some bytes =>
      match findChar? isLineBreak bytes 0 with
      | none => some (some (bytes, ⟨none⟩))
      | some (stop, separator) => do
          let tail ← sliceFrom? bytes stop
          let rest ← sliceFrom? bytes (stop + breakSize tail separator)
          let line ← sliceTo? bytes stop
          some (some (line, ⟨some rest⟩))

def size (cursor : ByteLines) : Nat :=
  match cursor.rest with
  | none => 0
  | some bytes => bytes.length + 1

theorem size_next?
    {cursor after : ByteLines} {line : List UInt8}
    (hnext : cursor.next? = some (some (line, after))) : after.size < cursor.size := by
  obtain ⟨rest⟩ := cursor
  cases rest with
  | none => simp [next?] at hnext
  | some bytes =>
      simp only [next?] at hnext
      split at hnext
      · simp only [Option.some.injEq, Prod.mk.injEq] at hnext
        obtain ⟨-, rfl⟩ := hnext
        simp [size]
      · rename_i stop separator hfound
        simp only [Option.bind_eq_bind, Option.bind_eq_some_iff, Option.some.injEq,
          Prod.mk.injEq] at hnext
        obtain ⟨tail, -, rest, hrest, line, -, -, rfl⟩ := hnext
        have hpos := length_pos_of_findChar? hfound
        have hsize := breakSize_pos tail separator
        rw [eq_drop_of_sliceFrom? hrest]
        simp only [size, List.length_drop]
        omega

def countFrom? (cursor : ByteLines) (counted : Nat) : Option Nat :=
  match _hnext : cursor.next? with
  | none => none
  | some none => some counted
  | some (some (_, after)) => countFrom? after (counted + 1)
termination_by cursor.size
decreasing_by exact size_next? _hnext

/-- The cursor behind so many requests. -/
def advance? (cursor : ByteLines) : Nat → Option ByteLines
  | 0 => some cursor
  | calls + 1 => do
      let reached ← cursor.advance? calls
      let found ← reached.next?
      some (found.elim reached Prod.snd)

/-- The lines that are still to be handed out. -/
def drain? (cursor : ByteLines) : Option (List (List UInt8)) :=
  match _hnext : cursor.next? with
  | none => none
  | some none => some []
  | some (some (line, after)) => (drain? after).map (line :: ·)
termination_by cursor.size
decreasing_by exact size_next? _hnext

end ByteLines

/-- The cursor behind so many requests. -/
def LineCursor.advance (cursor : LineCursor) : Nat → LineCursor
  | 0 => cursor
  | calls + 1 => (cursor.advance calls).next.elim (cursor.advance calls) Prod.snd

/-- The lines that are left, in bytes. -/
def LineCursor.bytes (cursor : LineCursor) : ByteLines :=
  ⟨cursor.rest.map encodeUtf8⟩

theorem ByteLines.next?_bytes (cursor : LineCursor) :
    cursor.bytes.next? =
      some (cursor.next.map fun (line, after) => (encodeUtf8 line, after.bytes)) := by
  obtain ⟨rest⟩ := cursor
  cases rest with
  | none => rfl
  | some text =>
      have hsplit : text.takeWhile (fun c => !isLineBreak c) ++
          text.dropWhile (fun c => !isLineBreak c) = text := List.takeWhile_append_dropWhile
      simp only [LineCursor.bytes, Option.map_some, next?, LineCursor.next, findChar?_encodeUtf8,
        Nat.zero_add]
      cases hdrop : text.dropWhile fun c => !isLineBreak c with
      | nil =>
          rw [hdrop, List.append_nil] at hsplit
          simp [hsplit]
      | cons c tail =>
          obtain ⟨brk, hbreak, hsize⟩ := exists_break c tail
          generalize text.takeWhile (fun c => !isLineBreak c) = line at hsplit ⊢
          rw [hdrop] at hsplit
          have hline := sliceTo?_append line (c :: tail)
          have htail := sliceFrom?_append line (c :: tail)
          have hrest := sliceFrom?_append (line ++ brk) (dropBreak (c :: tail))
          rw [List.append_assoc, ← hbreak, hsplit, encodeUtf8_append, List.length_append] at hrest
          rw [hsplit] at hline htail
          simp [hline, htail, hsize, hrest]

theorem ByteLines.next?_bytes_of_end
    {cursor : LineCursor} (hnext : cursor.next = none) : cursor.bytes.next? = some none := by
  rw [next?_bytes, hnext, Option.map_none]

theorem ByteLines.next?_bytes_of_line
    {cursor after : LineCursor} {line : List Char} (hnext : cursor.next = some (line, after)) :
    cursor.bytes.next? = some (some (encodeUtf8 line, after.bytes)) := by
  rw [next?_bytes, hnext, Option.map_some]

theorem ByteLines.countFrom?_bytes (cursor : LineCursor) (counted : Nat) :
    cursor.bytes.countFrom? counted = some (cursor.countFrom counted) := by
  fun_induction LineCursor.countFrom cursor counted with
  | case1 cursor counted hnext =>
      have hend := next?_bytes_of_end hnext
      rw [countFrom?]
      split <;> simp_all
  | case2 cursor counted line after hnext ih =>
      have hline := next?_bytes_of_line hnext
      rw [countFrom?]
      split <;> simp_all

theorem ByteLines.advance?_bytes (cursor : LineCursor) (calls : Nat) :
    cursor.bytes.advance? calls = some (cursor.advance calls).bytes := by
  induction calls with
  | zero => rfl
  | succ calls ih =>
      rw [advance?, ih, Option.bind_eq_bind, Option.bind_some, next?_bytes, LineCursor.advance]
      cases (cursor.advance calls).next <;> rfl

theorem ByteLines.drain?_bytes (cursor : LineCursor) :
    cursor.bytes.drain? = some (cursor.drain.map encodeUtf8) := by
  fun_induction LineCursor.drain cursor with
  | case1 cursor hnext =>
      have hend := next?_bytes_of_end hnext
      rw [drain?]
      split <;> simp_all
  | case2 cursor line after hnext ih =>
      have hline := next?_bytes_of_line hnext
      rw [drain?]
      split <;> simp_all

end Text

/-! ## Rows in bytes -/

structure ByteToken where
  line : Nat
  markers : List UInt8
  deriving Repr, DecidableEq

namespace ByteToken

def ofLine? (number : Nat) (line : List UInt8) : Option (Option ByteToken) :=
  let width := (line.takeWhile isMarkerByte).length
  if width = 0 then
    some none
  else do
    let markers ← sliceTo? line width
    some (some ⟨number, markers⟩)

def pixels (token : ByteToken) : List Bool :=
  token.markers.map (· != 0x2E)

def pack (token : ByteToken) (policy : WidthPolicy) : RowItem :=
  if policy.allows token.markers.length then
    .ok (token.pixels.foldl RowToken.pushPixel 0)
  else
    .error ⟨token.line, token.markers.length, policy⟩

end ByteToken

def RowToken.bytes (token : RowToken) : ByteToken :=
  ⟨token.line, encodeUtf8 token.markers⟩

structure ByteRows where
  lines : ByteLines
  lineNumber : Nat
  policy : WidthPolicy
  deriving Repr, DecidableEq

namespace ByteRows

def ofBytes? (bytes : List UInt8) (policy : WidthPolicy) : Option ByteRows := do
  let start :=
    match findChar? (!isLeadingSpace ·) bytes 0 with
    | none => bytes.length
    | some (index, _) => index
  let content ← sliceFrom? bytes start
  let space ← sliceTo? bytes (bytes.length - content.length)
  let counted ← ByteLines.countFrom? ⟨some space⟩ 0
  some { lines := ⟨some content⟩, lineNumber := counted - 1, policy }

def next? (cursor : ByteRows) : Option (Option RowItem × ByteRows) :=
  match _hline : cursor.lines.next? with
  | none => none
  | some none => some (none, cursor)
  | some (some (line, lines)) =>
      let number := cursor.lineNumber + 1
      let after : ByteRows := { cursor with lines, lineNumber := number }
      match ByteToken.ofLine? number line with
      | none => none
      | some none => next? after
      | some (some token) => some (some (token.pack cursor.policy), after)
termination_by cursor.lines.size
decreasing_by exact ByteLines.size_next? _hline

/-- The scanner behind so many requests. -/
def advance? (cursor : ByteRows) : Nat → Option ByteRows
  | 0 => some cursor
  | calls + 1 => do
      let reached ← cursor.advance? calls
      let (_, rest) ← reached.next?
      some rest

end ByteRows

/-! ## Markers -/

theorem exists_marker_of_isMarkerByte
    {text : List Char} {byte : UInt8} {bytes : List UInt8}
    (htext : encodeUtf8 text = byte :: bytes) (hbyte : isMarkerByte byte = true) :
    ∃ c rest, text = c :: rest ∧ isMarker c = true := by
  have hmarker : ∃ c, encodeUtf8 [c] = [byte] ∧ isMarker c = true := by
    simp only [isMarkerByte, Bool.or_eq_true, beq_iff_eq] at hbyte
    rcases hbyte with (rfl | rfl) | rfl
    · exact ⟨'.', rfl, rfl⟩
    · exact ⟨'*', rfl, rfl⟩
    · exact ⟨'@', rfl, rfl⟩
  obtain ⟨c, hc, hmarker⟩ := hmarker
  have hfirst : [c] <+: text := encodeUtf8_prefix_iff.mp ⟨bytes, by rw [hc, htext]; rfl⟩
  obtain ⟨rest, rfl⟩ := hfirst
  exact ⟨c, rest, rfl, hmarker⟩

theorem exists_byte_of_isMarker
    {c : Char} (hc : isMarker c = true) :
    ∃ byte, String.utf8EncodeChar c = [byte] ∧ isMarkerByte byte = true ∧
      (byte != 0x2E) = (c != '.') := by
  simp only [isMarker, Bool.or_eq_true, beq_iff_eq] at hc
  rcases hc with (rfl | rfl) | rfl
  · exact ⟨0x2E, rfl, rfl, rfl⟩
  · exact ⟨0x2A, rfl, rfl, rfl⟩
  · exact ⟨0x40, rfl, rfl, rfl⟩

/-- No byte of a character that takes several is that of a marker. -/
theorem takeWhile_isMarkerByte (line : List Char) :
    (encodeUtf8 line).takeWhile isMarkerByte = encodeUtf8 (line.takeWhile isMarker) := by
  induction line with
  | nil => rfl
  | cons c line ih =>
      cases hc : isMarker c with
      | true =>
          obtain ⟨byte, hbyte, hmarker, -⟩ := exists_byte_of_isMarker hc
          rw [List.takeWhile_cons_of_pos hc, encodeUtf8_cons, encodeUtf8_cons, hbyte,
            List.singleton_append, List.takeWhile_cons_of_pos hmarker, ih]
          rfl
      | false =>
          obtain ⟨byte, bytes, hbytes, -⟩ := utf8EncodeChar_eq_cons c
          have htext : encodeUtf8 (c :: line) = byte :: (bytes ++ encodeUtf8 line) := by
            rw [encodeUtf8_cons, hbytes, List.cons_append]
          have hbyte : ¬isMarkerByte byte = true := by
            intro hbyte
            obtain ⟨d, rest, hd, hmarker⟩ := exists_marker_of_isMarkerByte htext hbyte
            obtain ⟨rfl, -⟩ := List.cons.inj hd
            rw [hc] at hmarker
            contradiction
          rw [htext, List.takeWhile_cons_of_neg hbyte,
            List.takeWhile_cons_of_neg (by simp [hc]), encodeUtf8_nil]

theorem pixels_markers
    {markers : List Char} (hmarkers : ∀ c ∈ markers, isMarker c = true) :
    (encodeUtf8 markers).map (· != 0x2E) = markers.map (· != '.') := by
  induction markers with
  | nil => rfl
  | cons c markers ih =>
      obtain ⟨byte, hbyte, -, hpixel⟩ := exists_byte_of_isMarker (hmarkers c List.mem_cons_self)
      rw [encodeUtf8_cons, hbyte, List.singleton_append, List.map_cons, List.map_cons, hpixel,
        ih fun other hother => hmarkers other (List.mem_cons_of_mem c hother)]

theorem length_markers
    {markers : List Char} (hmarkers : ∀ c ∈ markers, isMarker c = true) :
    (encodeUtf8 markers).length = markers.length := by
  have hpixels := congrArg List.length (pixels_markers hmarkers)
  rwa [List.length_map, List.length_map] at hpixels

theorem length_takeWhile_isMarkerByte (line : List Char) :
    ((encodeUtf8 line).takeWhile isMarkerByte).length = (line.takeWhile isMarker).length := by
  rw [takeWhile_isMarkerByte]
  exact length_markers fun c hc => List.mem_takeWhile_imp hc

theorem RowToken.isMarker_of_ofLine?
    {number : Nat} {line : List Char} {token : RowToken}
    (hrow : ofLine? number line = some token) : ∀ c ∈ token.markers, isMarker c = true := by
  unfold ofLine? at hrow
  split at hrow
  · contradiction
  · rename_i first more hmarkers
    obtain rfl := Option.some.inj hrow
    intro c hc
    rw [← hmarkers] at hc
    exact List.mem_takeWhile_imp hc

/-! ## The scanner on the bytes of a text -/

namespace ByteToken

theorem ofLine?_encodeUtf8 (number : Nat) (line : List Char) :
    ofLine? number (encodeUtf8 line) =
      some ((RowToken.ofLine? number line).map RowToken.bytes) := by
  have hslice := sliceTo?_append (line.takeWhile isMarker) (line.dropWhile isMarker)
  rw [List.takeWhile_append_dropWhile] at hslice
  unfold ofLine? RowToken.ofLine?
  rw [takeWhile_isMarkerByte]
  generalize line.takeWhile isMarker = markers at hslice ⊢
  cases markers with
  | nil => rfl
  | cons c markers =>
      have hwidth : (encodeUtf8 (c :: markers)).length ≠ 0 := by
        have hlength := length_le_length_encodeUtf8 (c :: markers)
        rw [List.length_cons] at hlength
        omega
      simp [hwidth, hslice, RowToken.bytes]

theorem pack_bytes
    {token : RowToken} (policy : WidthPolicy)
    (hmarkers : ∀ c ∈ token.markers, isMarker c = true) :
    token.bytes.pack policy = token.pack policy := by
  unfold pack RowToken.pack pixels RowToken.pixels RowToken.width
  simp only [RowToken.bytes, length_markers hmarkers, pixels_markers hmarkers]

end ByteToken

def RowCursor.bytes (cursor : RowCursor) : ByteRows :=
  ⟨cursor.lines.bytes, cursor.lineNumber, cursor.policy⟩

namespace ByteRows

theorem ofBytes?_encodeUtf8 (text : List Char) (policy : WidthPolicy) :
    ofBytes? (encodeUtf8 text) policy = some (RowCursor.ofText text policy).bytes := by
  have hsplit : text.takeWhile isLeadingSpace ++ text.dropWhile isLeadingSpace = text :=
    List.takeWhile_append_dropWhile
  have hfound := findChar?_encodeUtf8 (!isLeadingSpace ·) text 0
  simp only [Bool.not_not, Nat.zero_add] at hfound
  have hcontent := sliceFrom?_append (text.takeWhile isLeadingSpace) (text.dropWhile isLeadingSpace)
  have hspace := sliceTo?_append (text.takeWhile isLeadingSpace) (text.dropWhile isLeadingSpace)
  have hcounted := ByteLines.countFrom?_bytes (.ofText (text.takeWhile isLeadingSpace)) 0
  have hlength : (encodeUtf8 text).length - (encodeUtf8 (text.dropWhile isLeadingSpace)).length =
      (encodeUtf8 (text.takeWhile isLeadingSpace)).length := by
    have hbytes := congrArg List.length (encodeUtf8_append (text.takeWhile isLeadingSpace)
      (text.dropWhile isLeadingSpace))
    rw [hsplit, List.length_append] at hbytes
    omega
  rw [hsplit] at hcontent hspace
  have hstart : (match findChar? (!isLeadingSpace ·) (encodeUtf8 text) 0 with
      | none => (encodeUtf8 text).length
      | some (index, _) => index) = (encodeUtf8 (text.takeWhile isLeadingSpace)).length := by
    rw [hfound]
    cases hdrop : text.dropWhile isLeadingSpace with
    | nil =>
        rw [hdrop, List.append_nil] at hsplit
        rw [hsplit]
        rfl
    | cons c rest => rfl
  unfold ofBytes?
  rw [hstart]
  simp only [hcontent, Option.bind_eq_bind, Option.bind_some, hlength, hspace]
  change
    (ByteLines.countFrom? (LineCursor.ofText (text.takeWhile isLeadingSpace)).bytes 0).bind _ = _
  rw [hcounted]
  rfl

theorem next?_of_end {cursor : ByteRows} (hline : cursor.lines.next? = some none) :
    cursor.next? = some (none, cursor) := by
  rw [next?]
  split <;> simp_all

theorem next?_of_line
    {cursor : ByteRows} {line : List UInt8} {lines : ByteLines}
    (hline : cursor.lines.next? = some (some (line, lines))) :
    cursor.next? =
      match ByteToken.ofLine? (cursor.lineNumber + 1) line with
      | none => none
      | some none => next? { cursor with lines, lineNumber := cursor.lineNumber + 1 }
      | some (some token) =>
          some (some (token.pack cursor.policy),
            { cursor with lines, lineNumber := cursor.lineNumber + 1 }) := by
  rw [next?]
  split
  · simp_all
  · simp_all
  · rename_i line lines hfirst
    rw [hline] at hfirst
    simp only [Option.some.injEq, Prod.mk.injEq] at hfirst
    obtain ⟨rfl, rfl⟩ := hfirst
    rfl

/-- A line that has been taken and examined is taken and examined in bytes too. -/
theorem next?_bytes_of_line
    {cursor : RowCursor} {line : List Char} {lines : LineCursor}
    (hline : cursor.lines.next = some (line, lines)) :
    let after : RowCursor := { cursor with lines, lineNumber := cursor.lineNumber + 1 }
    cursor.bytes.next? =
      match RowToken.ofLine? (cursor.lineNumber + 1) line with
      | none => after.bytes.next?
      | some token => some (some (token.pack cursor.policy), after.bytes) := by
  intro after
  rw [next?_of_line (ByteLines.next?_bytes_of_line hline)]
  change (match ByteToken.ofLine? (cursor.lineNumber + 1) (encodeUtf8 line) with
    | none => none
    | some none => after.bytes.next?
    | some (some token) => some (some (token.pack cursor.policy), after.bytes)) = _
  rw [ByteToken.ofLine?_encodeUtf8]
  cases hrow : RowToken.ofLine? (cursor.lineNumber + 1) line with
  | none => rfl
  | some token =>
      simp only [Option.map_some]
      rw [ByteToken.pack_bytes _ (RowToken.isMarker_of_ofLine? hrow)]

theorem next?_bytes (cursor : RowCursor) :
    cursor.bytes.next? = some (cursor.next.item, cursor.next.rest.bytes) := by
  unfold RowCursor.next
  generalize (#[] : Array Event) = log
  fun_induction RowCursor.nextFrom .wide cursor log with
  | case1 cursor log hline => exact next?_of_end (ByteLines.next?_bytes_of_end hline)
  | case2 cursor log line lines hline number after hrow ih =>
      rw [next?_bytes_of_line hline, hrow]
      exact ih
  | case3 cursor log line lines hline number after token hrow byte hpack =>
      rw [next?_bytes_of_line hline, hrow]
      simp only [hpack]
      rfl
  | case4 cursor log line lines hline number after token hrow error hpack =>
      rw [next?_bytes_of_line hline, hrow]
      simp only [hpack]
      rfl

theorem advance?_bytes (cursor : RowCursor) (calls : Nat) :
    cursor.bytes.advance? calls = some (cursor.advance calls).bytes := by
  induction calls with
  | zero => rfl
  | succ calls ih =>
      rw [advance?, ih, Option.bind_eq_bind, Option.bind_some, next?_bytes]
      rfl

end ByteRows

/-! ## A text in its bytes -/

/-- What a scanner of the bytes has of the text they encode. -/
structure BytesScanned (bytes : List UInt8) (text : List Char) : Prop where
  /-- There is a slice where the text has a character or its end, and nowhere else. -/
  boundary : ∀ index, isBoundary bytes index = true ↔
    ∃ before after, text = before ++ after ∧ index = (encodeUtf8 before).length
  /-- The splitting reaches what it reaches among the characters, with the lines on the way. -/
  line : ∀ calls,
    let cursor := (LineCursor.ofText text).advance calls
    ByteLines.advance? ⟨some bytes⟩ calls = some cursor.bytes ∧
      cursor.bytes.next? =
        some (cursor.next.map fun (line, after) => (encodeUtf8 line, after.bytes))
  lines : ByteLines.drain? ⟨some bytes⟩ = some ((Text.lines text).map encodeUtf8)
  separator : ∀ c rest, text = c :: rest → isLineBreak c = true →
    breakSize bytes c ∈ [1, 2, 3] ∧
      sliceFrom? bytes (breakSize bytes c) = some (encodeUtf8 (dropBreak text))
  width : (bytes.takeWhile isMarkerByte).length = (text.takeWhile isMarker).length
  row : ∀ number, ByteToken.ofLine? number bytes =
    some ((RowToken.ofLine? number text).map RowToken.bytes)
  /-- The scanner reaches what the row cursor reaches, with the items on the way. -/
  rows : ∀ policy calls,
    let cursor := (RowCursor.ofText text policy).advance calls
    (ByteRows.ofBytes? bytes policy).bind (·.advance? calls) = some cursor.bytes ∧
      cursor.bytes.next? = some (cursor.next.item, cursor.next.rest.bytes)

/-- A text is scanned in its bytes without a slice that does not exist, and every line, row
and item found there is the one among the characters. -/
theorem bytes_scanned_as_text
    {bytes : List UInt8} {text : List Char} (hdecode : decodeUtf8? bytes = some text) :
    BytesScanned bytes text := by
  obtain rfl := encodeUtf8_of_decodeUtf8? hdecode
  refine ⟨fun _ => isBoundary_encodeUtf8_iff, ?_, ?_, ?_, length_takeWhile_isMarkerByte text,
    fun number => ByteToken.ofLine?_encodeUtf8 number text, ?_⟩
  · intro calls cursor
    exact ⟨ByteLines.advance?_bytes (.ofText text) calls, ByteLines.next?_bytes cursor⟩
  · have hdrain := ByteLines.drain?_bytes (.ofText text)
    rwa [LineCursor.drain_eq_toList, LineCursor.toList_ofText] at hdrain
  · rintro c rest rfl hc
    exact ⟨breakSize_mem _ hc, sliceFrom?_breakSize c rest⟩
  · intro policy calls cursor
    rw [ByteRows.ofBytes?_encodeUtf8, Option.bind_some, ByteRows.advance?_bytes]
    exact ⟨rfl, ByteRows.next?_bytes cursor⟩

/-- Breaks of two, three and one bytes, with a character of two bytes behind a marker. -/
theorem bytes_scanned_as_text_three_breaks :
    let text : List Char := ['*', 'é', '\u0085', '.', '@', '\u2028', '\n']
    let bytes : List UInt8 :=
      [0x2A, 0xC3, 0xA9, 0xC2, 0x85, 0x2E, 0x40, 0xE2, 0x80, 0xA8, 0x0A]
    decodeUtf8? bytes = some text ∧
      isBoundary bytes 4 = false ∧
      ByteLines.drain? ⟨some bytes⟩ = some [[0x2A, 0xC3, 0xA9], [0x2E, 0x40], [], []] ∧
      (bytes.takeWhile isMarkerByte).length = 1 ∧
      (ByteRows.ofBytes? bytes .lenient).bind (·.advance? 2) =
        some ((RowCursor.ofText text .lenient).advance 2).bytes := by
  intro text bytes
  have hdecode : decodeUtf8? bytes = some text := decodeUtf8?_encodeUtf8 text
  have hscanned := bytes_scanned_as_text hdecode
  exact ⟨hdecode, rfl, hscanned.lines, hscanned.width, (hscanned.rows .lenient 2).1⟩

end BitmapFont
