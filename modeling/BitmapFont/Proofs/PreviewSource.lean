import BitmapFont.Proofs.PreviewPrefix

/-!
# Previews as sources

A preview is a source for the glyphs it shows.  A heading opens with a quote, so
it neither is trimmed nor has a row.  It is one line, because every break is
unprintable and so escaped, and nothing else in a heading could be a break.
Between the headings stand drawings, whose rows pack to the bytes of the glyphs.
-/

namespace BitmapFont

open Text

/-! ## Bytes of a text -/

namespace Text

theorem toByteArray_encodeUtf8 (text : List Char) :
    (encodeUtf8 text).toByteArray = (String.ofList text).toByteArray :=
  String.toByteArray_ofList.symm

theorem decodeUtf8?_encodeUtf8 (text : List Char) :
    decodeUtf8? (encodeUtf8 text) = some text := by
  have hvalid : (String.ofList text).toByteArray.IsValidUTF8 :=
    (String.ofList text).isValidUTF8
  unfold decodeUtf8? String.fromUTF8?
  rw [toByteArray_encodeUtf8, dif_pos hvalid, Option.map_some]
  exact congrArg some String.toList_ofList

theorem encodeUtf8_of_decodeUtf8?
    {bytes : List UInt8} {text : List Char} (hdecode : decodeUtf8? bytes = some text) :
    encodeUtf8 text = bytes := by
  unfold decodeUtf8? String.fromUTF8? at hdecode
  split at hdecode
  · rename_i hvalid
    obtain rfl := Option.some.inj hdecode
    apply List.toByteArray_inj.mp
    rw [toByteArray_encodeUtf8, String.ofList_toList]
    rfl
  · contradiction

/-! ## Headings -/

theorem isUnprintable_of_isLineBreak
    {c : Char} (hc : isLineBreak c = true) : isUnprintable c = true := by
  simp only [isLineBreak, Bool.or_eq_true, beq_iff_eq] at hc
  rcases hc with (((((((((rfl | rfl) | rfl) | rfl) | rfl) | rfl) | rfl) | rfl) | rfl) | rfl)
  all_goals decide +kernel

theorem HexCase.isLineBreak_digit
    (letters : HexCase) {value : Nat} (hvalue : value < 16) :
    isLineBreak (letters.digit value) = false := by
  revert value
  cases letters with
  | lower => decide
  | upper => decide

theorem isLineBreak_of_mem_hexDigits
    {letters : HexCase} {number : Nat} {c : Char} (hc : c ∈ hexDigits letters number) :
    isLineBreak c = false := by
  fun_induction hexDigits letters number with
  | case1 number hsmall =>
      rw [List.mem_singleton] at hc
      rw [hc]
      exact letters.isLineBreak_digit hsmall
  | case2 number hlarge ih =>
      rw [List.mem_append, List.mem_singleton] at hc
      rcases hc with hc | rfl
      · exact ih hc
      · exact letters.isLineBreak_digit (Nat.mod_lt number (by decide))

theorem isLineBreak_of_mem_hex
    {letters : HexCase} {width number : Nat} {c : Char}
    (hc : c ∈ hex letters width number) : isLineBreak c = false := by
  unfold hex at hc
  rw [List.mem_append] at hc
  rcases hc with hc | hc
  · rw [List.eq_of_mem_replicate hc]
    decide
  · exact isLineBreak_of_mem_hexDigits hc

theorem isLineBreak_of_mem_of_any_eq_false
    {text : List Char} {c : Char} (htext : text.any isLineBreak = false) (hc : c ∈ text) :
    isLineBreak c = false := by
  rw [List.any_eq_false] at htext
  exact Bool.eq_false_iff.mpr (htext c hc)

theorem isLineBreak_of_mem_escape
    {c d : Char} (hd : d ∈ escape c) : isLineBreak d = false := by
  unfold escape at hd
  split_ifs at hd with hnull htab hfeed hreturn hquote hslash hhidden
  · exact isLineBreak_of_mem_of_any_eq_false rfl hd
  · exact isLineBreak_of_mem_of_any_eq_false rfl hd
  · exact isLineBreak_of_mem_of_any_eq_false rfl hd
  · exact isLineBreak_of_mem_of_any_eq_false rfl hd
  · exact isLineBreak_of_mem_of_any_eq_false rfl hd
  · exact isLineBreak_of_mem_of_any_eq_false rfl hd
  · rw [List.mem_append, List.mem_append] at hd
    rcases hd with (hd | hd) | hd
    · exact isLineBreak_of_mem_of_any_eq_false rfl hd
    · exact isLineBreak_of_mem_hex hd
    · exact isLineBreak_of_mem_of_any_eq_false rfl hd
  · -- Only a printable character stands for itself, and no break is printable.
    rw [List.mem_singleton] at hd
    subst hd
    rw [Bool.eq_false_iff]
    intro hbreak
    apply hhidden
    simp [isHidden, isUnprintable_of_isLineBreak hbreak]

end Text

theorem isLineBreak_of_mem_headingLine
    {c d : Char} (hd : d ∈ headingLine c) : isLineBreak d = false := by
  rw [headingLine_eq, quoted, List.mem_append, List.mem_append, List.mem_append, List.mem_append,
    List.mem_cons] at hd
  rcases hd with ((((rfl | hd) | hd) | hd) | hd) | hd
  · rfl
  · exact isLineBreak_of_mem_escape hd
  · exact isLineBreak_of_mem_of_any_eq_false rfl hd
  · exact isLineBreak_of_mem_of_any_eq_false rfl hd
  · exact isLineBreak_of_mem_hex hd
  · exact isLineBreak_of_mem_of_any_eq_false rfl hd

theorem ofLine?_headingLine (number : Nat) (c : Char) :
    RowToken.ofLine? number (headingLine c) = none := rfl

/-! ## The text of a preview -/

/-- The lines of a preview: under every heading the drawn rows of the glyph. -/
def previewLines (table : GlyphTable) (chars : List Char) : List (List Char) :=
  chars.flatMap fun c =>
    match table.getChar? c with
    | none => []
    | some glyph => headingLine c :: drawnLines glyph.rows

theorem previewLines_cons_of_none
    {table : GlyphTable} {c : Char} (chars : List Char) (hc : table.getChar? c = none) :
    previewLines table (c :: chars) = previewLines table chars := by
  simp [previewLines, hc]

theorem previewLines_cons_of_some
    {table : GlyphTable} {c : Char} {glyph : Glyph} (chars : List Char)
    (hc : table.getChar? c = some glyph) :
    previewLines table (c :: chars) =
      (headingLine c :: drawnLines glyph.rows) ++ previewLines table chars := by
  simp [previewLines, hc]

theorem previewBlock_eq (c : Char) (glyph : Glyph) :
    previewBlock c glyph = closeLines (headingLine c :: drawnLines glyph.rows) := by
  rw [previewBlock, previewHeading_eq, Glyph.draw_eq, closeLines_cons, List.append_assoc]
  rfl

theorem closeLines_previewLines (table : GlyphTable) (chars : List Char) :
    closeLines (previewLines table chars) = previewText table chars := by
  induction chars with
  | nil => rfl
  | cons c chars ih =>
      rw [previewText, List.flatMap_cons]
      cases hc : table.getChar? c with
      | none =>
          rw [previewLines_cons_of_none chars hc, ih, shownText_of_none hc]
          rfl
      | some glyph =>
          rw [previewLines_cons_of_some chars hc, closeLines_append, ← previewBlock_eq, ih,
            shownText_of_some hc]
          rfl

/-! ## Reading a preview -/

theorem isLineBreak_of_mem_previewLines
    {table : GlyphTable} {chars line : List Char} {d : Char}
    (hline : line ∈ previewLines table chars) (hd : d ∈ line) :
    isLineBreak d = false := by
  induction chars with
  | nil => contradiction
  | cons c chars ih =>
      cases hc : table.getChar? c with
      | none =>
          rw [previewLines_cons_of_none chars hc] at hline
          exact ih hline
      | some glyph =>
          rw [previewLines_cons_of_some chars hc, List.mem_append, List.mem_cons] at hline
          rcases hline with (rfl | hline) | hline
          · exact isLineBreak_of_mem_headingLine hd
          · exact isLineBreak_of_isMarker (isMarker_of_mem_drawnLines hline hd)
          · exact ih hline

theorem head?_previewLines
    {table : GlyphTable} {chars : List Char} {d : Char}
    (hd : (closeLines (previewLines table chars)).head? = some d) : d = '\x27' := by
  induction chars with
  | nil => contradiction
  | cons c chars ih =>
      cases hc : table.getChar? c with
      | none =>
          rw [previewLines_cons_of_none chars hc] at hd
          exact ih hd
      | some glyph =>
          rw [previewLines_cons_of_some chars hc] at hd
          simpa [headingLine, quoted] using hd.symm

theorem pack_previewLines
    (policy : WidthPolicy) (number : Nat) (table : GlyphTable) (chars : List Char) :
    (tokensFrom number (previewLines table chars)).map (·.pack policy) =
      (chars.flatMap fun c => ((table.getChar? c).map Glyph.rows).getD []).map .ok := by
  induction chars generalizing number with
  | nil => rfl
  | cons c chars ih =>
      rw [List.flatMap_cons, List.map_append]
      cases hc : table.getChar? c with
      | none =>
          rw [previewLines_cons_of_none chars hc, ih]
          rfl
      | some glyph =>
          rw [previewLines_cons_of_some chars hc, tokensFrom_append, List.map_append, ih,
            tokensFrom_cons_of_none _ (ofLine?_headingLine number c), pack_drawnLines]
          rfl

theorem GlyphTable.rows_getChar?
    (table : GlyphTable) (chars : List Char) :
    (chars.flatMap fun c => ((table.getChar? c).map Glyph.rows).getD []) =
      (chars.filter fun c => c.toNat < table.glyphCount).flatMap fun c =>
        table.blob.extract (c.toNat * table.height.toNat)
          ((c.toNat + 1) * table.height.toNat) := by
  induction chars with
  | nil => rfl
  | cons c chars ih =>
      rw [List.flatMap_cons, ih, getChar?_eq, List.filter_cons]
      by_cases hcount : c.toNat < table.glyphCount
      · have hlength :
            (c.toNat + 1) * table.height.toNat - c.toNat * table.height.toNat =
              table.height.toNat := by
          rw [Nat.add_one_mul, Nat.add_sub_cancel_left]
        simp [hcount, slice, List.extract_eq_take_drop, hlength]
      · simp [hcount]

/-- Encoding a preview gives the glyphs it shows: for each character below the
number of glyphs, in order, the bytes of the glyph at its code point. -/
theorem encodeWith_preview
    (blob : List UInt8) (height : UInt8) (chars : List Char) (policy : WidthPolicy) :
    ∃ sink text,
      (preview ⟨blob, height⟩ chars .unbounded).value = .ok sink ∧
      decodeUtf8? sink.written.toList = some text ∧
      (encodeWith policy text).value =
        .ok ((chars.filter fun c => c.toNat < (GlyphTable.mk blob height).glyphCount).flatMap
          fun c => blob.extract (c.toNat * height.toNat) ((c.toNat + 1) * height.toNat)) := by
  refine ⟨_, closeLines (previewLines ⟨blob, height⟩ chars),
    congrArg Logged.value (preview_unbounded ⟨blob, height⟩ chars), ?_, ?_⟩
  · rw [closeLines_previewLines]
    exact decodeUtf8?_encodeUtf8 _
  · rw [encodeWith_eq_ok_iff, items_closeLines policy, pack_previewLines,
      GlyphTable.rows_getChar?]
    · intro line hline d hd
      exact isLineBreak_of_mem_previewLines hline hd
    · intro d hd
      rw [head?_previewLines hd]
      decide

end BitmapFont
