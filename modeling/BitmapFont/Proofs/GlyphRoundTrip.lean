import BitmapFont.Proofs.DrawnRows
import BitmapFont.Proofs.GlyphLookup

/-!
# Encoding and reading back

The encoder lays the rows of a source in a blob one byte each, in order.  A
table over that blob finds the glyph at an index exactly when the source has all
of its rows, and shows those rows, narrow ones moved to the right.

In the other direction a blob is drawn glyph by glyph, the rows left over behind
the last whole glyph one by one.  Encoding the drawing gives the blob again, so
nothing is lost between the glyphs or behind them.
-/

namespace BitmapFont

open Text

/-! ## Packed rows as pixels -/

/-- The pixels that a row has as a byte: its own, moved to the right. -/
def RowToken.paddedPixels (token : RowToken) : List Bool :=
  List.replicate (8 - token.width) false ++ token.pixels

theorem RowToken.pixels_of_pack
    {token : RowToken} {policy : WidthPolicy} {byte : UInt8}
    (hpack : token.pack policy = .ok byte) :
    (GlyphRow.mk byte).pixels = token.paddedPixels := by
  have hlength : token.pixels.length = token.width := by
    simp [pixels, width]
  obtain ⟨hallows, rfl⟩ := allows_of_pack hpack
  have hwidth : token.width ≤ 8 := ((WidthPolicy.allows_iff policy _).mp hallows).1
  rw [GlyphRow.pixels_foldl_pushPixel _ (by omega), paddedPixels, hlength]

theorem pixels_of_items
    {tokens : List RowToken} {policy : WidthPolicy} {blob : List UInt8}
    (hitems : tokens.map (·.pack policy) = blob.map .ok) :
    (blob.map fun bits => (GlyphRow.mk bits).pixels) =
      tokens.map RowToken.paddedPixels := by
  induction tokens generalizing blob with
  | nil =>
      have hblob : blob = [] := List.map_eq_nil_iff.mp hitems.symm
      subst hblob
      rfl
  | cons token tokens ih =>
      cases blob with
      | nil => contradiction
      | cons byte blob =>
          obtain ⟨hbyte, hblob⟩ := List.cons.inj hitems
          rw [List.map_cons, List.map_cons, ih hblob, RowToken.pixels_of_pack hbyte]

/-! ## Glyphs of a source -/

/-- A glyph shows so many rows of a source from a given one on: every row it
hands out has the pixels of the source's row, and so has its drawing. -/
structure Glyph.Shows (glyph : Glyph) (tokens : List RowToken) (first height : Nat) :
    Prop where
  height_eq : (Cursor.items (GlyphCursor.ofGlyph glyph)).length = height
  pixels_eq : ∀ row < height, ∃ shown token,
    (Cursor.items (GlyphCursor.ofGlyph glyph))[row]? = some shown ∧
      tokens[first + row]? = some token ∧
      Cursor.items (PixelCursor.ofRow shown) = token.paddedPixels
  draw_eq : glyph.draw =
    ((tokens.drop first).take height).flatMap fun token =>
      token.paddedPixels.map (fun pixel => if pixel then '@' else '.') ++ ['\n']

theorem GlyphTable.shows_slice
    {table : GlyphTable} {tokens : List RowToken} {index : Nat}
    (hpixels : (table.blob.map fun bits => (GlyphRow.mk bits).pixels) =
      tokens.map RowToken.paddedPixels)
    (hindex : (index + 1) * table.height.toNat ≤ table.blob.length) :
    (table.slice index).Shows tokens (index * table.height.toNat) table.height.toNat where
  height_eq := by
    rw [GlyphCursor.items_ofGlyph, List.length_map, height_slice hindex]
  pixels_eq := by
    intro row hrow
    have hlength : table.blob.length = tokens.length := by
      simpa using congrArg List.length hpixels
    rw [Nat.add_one_mul] at hindex
    have hbyte : index * table.height.toNat + row < table.blob.length := by omega
    have htoken : index * table.height.toNat + row < tokens.length := by omega
    refine ⟨⟨table.blob[index * table.height.toNat + row]⟩,
      tokens[index * table.height.toNat + row], ?_, List.getElem?_eq_getElem htoken, ?_⟩
    · rw [GlyphCursor.items_ofGlyph, slice, List.getElem?_map, List.getElem?_take_of_lt hrow,
        List.getElem?_drop, List.getElem?_eq_getElem hbyte]
      rfl
    · have hrow := congrArg (·[index * table.height.toNat + row]?) hpixels
      simpa [hbyte, htoken] using hrow
  draw_eq := by
    have hslice :
        ((table.slice index).rows.map fun bits => (GlyphRow.mk bits).pixels) =
          (((tokens.drop (index * table.height.toNat)).take table.height.toNat).map
            RowToken.paddedPixels) := by
      rw [slice, List.map_take, List.map_drop, hpixels, List.map_take, List.map_drop]
    have hdraw := congrArg (List.flatMap fun pixels : List Bool =>
      pixels.map GlyphRow.mark ++ ['\n']) hslice
    rw [List.flatMap_map, List.flatMap_map] at hdraw
    exact hdraw

/-! ## Sources are longer than their blobs -/

theorem length_flatten_lines_le (text : List Char) :
    (Text.lines text).flatten.length ≤ text.length := by
  induction text using breakInduction with
  | nil => exact Nat.le_refl 0
  | atBreak c rest hc ih =>
      have hdrop := length_dropBreak_le (c :: rest)
      rw [lines_of_break rest hc, List.flatten_cons, List.nil_append]
      omega
  | inLine c rest hc ih =>
      obtain ⟨first, more, hrest⟩ := List.exists_cons_of_ne_nil (lines_ne_nil rest)
      rw [hrest] at ih
      rw [lines_of_not_break rest hc, hrest]
      simp only [List.modifyHead_cons, List.flatten_cons, List.cons_append,
        List.length_cons, List.length_append] at ih ⊢
      omega

theorem length_tokensFrom_le (number : Nat) (lines : List (List Char)) :
    (tokensFrom number lines).length ≤ lines.flatten.length := by
  induction lines generalizing number with
  | nil => simp
  | cons line lines ih =>
      have hrest := ih (number + 1)
      rw [List.flatten_cons, List.length_append]
      cases htoken : RowToken.ofLine? number line with
      | none =>
          rw [tokensFrom_cons_of_none _ htoken]
          omega
      | some token =>
          have hline : 0 < line.length := by
            rw [List.length_pos_iff]
            rintro rfl
            contradiction
          rw [tokensFrom_cons_of_some _ htoken, List.length_cons]
          omega

theorem length_sourceTokens_le (text : List Char) :
    (sourceTokens text).length ≤ text.length := by
  have hitems := congrArg List.length
    ((RowCursor.items_eq_sourceTokens text .lenient).symm.trans
      (RowCursor.items_ofText text .lenient))
  rw [List.length_map, List.length_map] at hitems
  rw [hitems]
  calc
    _ ≤ (Text.lines (text.dropWhile isLeadingSpace)).flatten.length :=
      length_tokensFrom_le _ _
    _ ≤ (text.dropWhile isLeadingSpace).length := length_flatten_lines_le _
    _ ≤ text.length := List.length_dropWhile_le _ _

theorem length_of_encodeWith
    {policy : WidthPolicy} {text : List Char} {blob : List UInt8}
    (hencode : (encodeWith policy text).value = .ok blob) :
    blob.length = (sourceTokens text).length := by
  rw [encodeWith_eq_ok_iff, RowCursor.items_eq_sourceTokens] at hencode
  simpa using (congrArg List.length hencode).symm

theorem length_blob_lt
    {policy : WidthPolicy} {text : List Char} {blob : List UInt8}
    (htext : text.length < UInt64.size)
    (hencode : (encodeWith policy text).value = .ok blob) :
    blob.length < UInt64.size := by
  rw [length_of_encodeWith hencode]
  exact Nat.lt_of_le_of_lt (length_sourceTokens_le text) htext

/-! ## Reading back what was encoded -/

theorem GlyphTable.get?_isSome_iff
    {table : GlyphTable} (index : UInt64) (hheight : table.height ≠ 0)
    (hblob : table.blob.length < UInt64.size) :
    (table.get? index).isSome = true ↔
      (index.toNat + 1) * table.height.toNat ≤ table.blob.length := by
  have hpos : 0 < table.height.toNat := by
    rw [Nat.pos_iff_ne_zero]
    intro hzero
    exact hheight (UInt8.toNat_inj.mp hzero)
  rw [get?_eq index hblob]
  by_cases hcount : index.toNat < table.glyphCount
  · simp [hcount, (lt_glyphCount_iff.mp hcount).2]
  · simp only [hcount, if_false, Option.isSome_none, Bool.false_eq_true, false_iff]
    intro hend
    exact hcount (lt_glyphCount_iff.mpr ⟨hpos, hend⟩)

theorem exists_drawnLines
    {rows : List (List Char)}
    (hrows : ∀ row ∈ rows, row.length = 8 ∧ ∀ c ∈ row, c = '@' ∨ c = '.') :
    ∃ blob : List UInt8, blob.length = rows.length ∧ drawnLines blob = rows := by
  refine ⟨rows.map fun row => (row.map (· != '.')).foldl RowToken.pushPixel 0,
    List.length_map _, ?_⟩
  unfold drawnLines
  rw [List.map_map]
  conv_rhs => rw [← List.map_id rows]
  apply List.map_congr_left
  intro row hrow
  obtain ⟨hlength, hmarks⟩ := hrows row hrow
  apply GlyphRow.draw_of_pixels hmarks
  rw [GlyphRow.pixels_foldl_pushPixel _ (by rw [List.length_map, hlength]), List.length_map,
    hlength]
  rfl

theorem GlyphTable.get?_zero_of_length
    {blob : List UInt8} (hpos : 0 < blob.length) (hlength : blob.length ≤ 255) :
    (mk blob (UInt8.ofNat blob.length)).get? 0 = some ⟨blob⟩ := by
  have hheight : (UInt8.ofNat blob.length).toNat = blob.length :=
    UInt8.toNat_ofNat_of_lt' (Nat.lt_succ_of_le hlength)
  have hword : blob.length < UInt64.size := Nat.lt_of_le_of_lt hlength (by decide)
  rw [get?_eq_some_iff]
  simp only [hheight, slice, UInt64.toNat_zero, Nat.zero_add, Nat.one_mul, Nat.zero_mul,
    List.drop_zero, List.take_length]
  exact ⟨hpos, hword, Nat.le_refl _, trivial⟩

/-- The glyphs of an encoded source are those the source has all rows of, and
they show them.  A drawing of full rows in the two marks comes back unchanged. -/
theorem encoded_glyphs_show_source (policy : WidthPolicy) :
    (∀ (text : List Char) (blob : List UInt8) (height : UInt8) (index : UInt64),
      text.length < UInt64.size → height ≠ 0 →
      (encodeWith policy text).value = .ok blob →
      (((GlyphTable.mk blob height).get? index).isSome = true ↔
          (index.toNat + 1) * height.toNat ≤ (sourceTokens text).length) ∧
        ∀ glyph, (GlyphTable.mk blob height).get? index = some glyph →
          glyph.Shows (sourceTokens text) (index.toNat * height.toNat)
            height.toNat) ∧
      ∀ rows : List (List Char), 0 < rows.length → rows.length ≤ 255 →
        (∀ row ∈ rows, row.length = 8 ∧ ∀ c ∈ row, c = '@' ∨ c = '.') →
        ∃ blob glyph,
          (encodeWith policy (closeLines rows)).value = .ok blob ∧
          (GlyphTable.mk blob (UInt8.ofNat rows.length)).get? 0 = some glyph ∧
          glyph.draw = closeLines rows := by
  constructor
  · intro text blob height index htext hheight hencode
    have hlength : blob.length = (sourceTokens text).length :=
      length_of_encodeWith hencode
    have hblob : blob.length < UInt64.size := length_blob_lt htext hencode
    rw [encodeWith_eq_ok_iff, RowCursor.items_eq_sourceTokens] at hencode
    constructor
    · rw [← hlength]
      exact GlyphTable.get?_isSome_iff index hheight hblob
    · intro glyph hglyph
      obtain ⟨-, -, hindex, rfl⟩ := GlyphTable.get?_eq_some_iff.mp hglyph
      exact GlyphTable.shows_slice (pixels_of_items hencode) hindex
  · intro rows hpos hmost hrows
    obtain ⟨blob, hlength, hdrawn⟩ := exists_drawnLines hrows
    rw [← hlength] at hpos hmost ⊢
    refine ⟨blob, ⟨blob⟩, ?_, GlyphTable.get?_zero_of_length hpos hmost, ?_⟩
    · rw [← hdrawn]
      exact encodeWith_drawnLines policy blob
    · rw [Glyph.draw_eq, hdrawn]

theorem encoded_glyphs_show_source_two_rows :
    (encodeWith .lenient [' ', '*', '.', '\n', 'x', '\n', '.', '@', '\n']).value =
        .ok [2, 1] ∧
      ((GlyphTable.mk [2, 1] 2).get? 0).isSome = true ∧
      (Glyph.mk [2, 1]).Shows
        (sourceTokens [' ', '*', '.', '\n', 'x', '\n', '.', '@', '\n']) 0 2 ∧
      ∃ blob glyph,
        (encodeWith .lenient (closeLines [List.replicate 8 '@'])).value = .ok blob ∧
        (GlyphTable.mk blob 1).get? 0 = some glyph ∧
        glyph.draw = closeLines [List.replicate 8 '@'] := by
  have hencode :
      (encodeWith .lenient [' ', '*', '.', '\n', 'x', '\n', '.', '@', '\n']).value =
        .ok [2, 1] := by
    rw [encodeWith_eq_ok_iff, RowCursor.items_eq_sourceTokens]
    rfl
  have hglyph := (encoded_glyphs_show_source .lenient).1 _ _ 2 0
    (by decide) (by decide) hencode
  have hfull : ∀ row ∈ [List.replicate 8 '@'],
      row.length = 8 ∧ ∀ c ∈ row, c = '@' ∨ c = '.' := by
    intro row hrow
    rw [List.mem_singleton] at hrow
    rw [hrow]
    exact ⟨rfl, fun c hc => Or.inl (List.eq_of_mem_replicate hc)⟩
  refine ⟨hencode, hglyph.1.mpr (by decide), hglyph.2 _ rfl, ?_⟩
  exact (encoded_glyphs_show_source .lenient).2 [List.replicate 8 '@']
    (by decide) (by decide) hfull

/-! ## Encoding what was drawn -/

namespace GlyphTable

def lookups (table : GlyphTable) : List (Option Glyph) :=
  (List.range table.glyphCount).map fun index => table.get? (UInt64.ofNat index)

def trailing (table : GlyphTable) : List UInt8 :=
  table.blob.drop (table.glyphCount * table.height.toNat)

theorem glyphCount_mul_le (table : GlyphTable) :
    table.glyphCount * table.height.toNat ≤ table.blob.length := by
  unfold glyphCount
  split
  · rw [Nat.zero_mul]
    exact Nat.zero_le _
  · exact Nat.div_mul_le_self _ _

theorem lookups_eq {table : GlyphTable} (hblob : table.blob.length < UInt64.size) :
    table.lookups = ((List.range table.glyphCount).map table.slice).map some := by
  unfold lookups
  rw [List.map_map]
  apply List.map_congr_left
  intro index hindex
  rw [List.mem_range] at hindex
  have hword : index < UInt64.size := by
    obtain ⟨hpos, hend⟩ := lt_glyphCount_iff.mp hindex
    -- A glyph takes at least a byte, so the bytes are enough to count the glyphs.
    have hgrow : index + 1 ≤ (index + 1) * table.height.toNat := Nat.le_mul_of_pos_right _ hpos
    omega
  have hvalue : (UInt64.ofNat index).toNat = index := UInt64.toNat_ofNat_of_lt' hword
  rw [get?_eq _ hblob, hvalue, if_pos hindex]
  rfl

theorem flatMap_slice (table : GlyphTable) (count : Nat) :
    ((List.range count).map table.slice).flatMap Glyph.rows =
      table.blob.take (count * table.height.toNat) := by
  induction count with
  | zero => simp
  | succ count ih =>
      rw [List.range_succ, List.map_append, List.flatMap_append, ih, Nat.add_one_mul,
        List.take_add]
      simp [slice]

end GlyphTable

def drawRows (rows : List UInt8) : List Char :=
  rows.flatMap fun bits => (GlyphRow.mk bits).draw ++ ['\n']

theorem drawRows_eq (rows : List UInt8) : drawRows rows = closeLines (drawnLines rows) :=
  Glyph.draw_eq ⟨rows⟩

theorem drawRows_append (rows more : List UInt8) :
    drawRows (rows ++ more) = drawRows rows ++ drawRows more := by
  unfold drawRows
  exact List.flatMap_append

theorem flatMap_draw (glyphs : List Glyph) :
    glyphs.flatMap Glyph.draw = drawRows (glyphs.flatMap Glyph.rows) := by
  induction glyphs with
  | nil => rfl
  | cons glyph glyphs ih =>
      rw [List.flatMap_cons, List.flatMap_cons, ih, drawRows_append]
      rfl

theorem encodeWith_drawRows (policy : WidthPolicy) (rows : List UInt8) :
    (encodeWith policy (drawRows rows)).value = .ok rows := by
  rw [drawRows_eq]
  exact encodeWith_drawnLines policy rows

theorem GlyphTable.drawRows_blob (table : GlyphTable) :
    ((List.range table.glyphCount).map table.slice).flatMap Glyph.draw ++
      drawRows table.trailing = drawRows table.blob := by
  rw [flatMap_draw, flatMap_slice, ← drawRows_append, trailing, List.take_append_drop]

/-- Encoding the drawings of all glyphs of a table gives the bytes they are laid
in, and with the trailing rows drawn behind them the whole blob.  So any blob
that a source was encoded to is what its own drawing encodes to. -/
theorem encodeWith_drawings (height : UInt8) (policy : WidthPolicy) :
    (∀ blob : List UInt8, blob.length < UInt64.size →
      ∃ glyphs : List Glyph,
        (GlyphTable.mk blob height).lookups = glyphs.map some ∧
        (GlyphTable.mk blob height).glyphCount * height.toNat ≤ blob.length ∧
        (encodeWith policy (glyphs.flatMap Glyph.draw)).value =
          .ok (blob.take ((GlyphTable.mk blob height).glyphCount * height.toNat)) ∧
        (encodeWith policy (glyphs.flatMap Glyph.draw ++
          drawRows (GlyphTable.mk blob height).trailing)).value = .ok blob) ∧
      ∀ (text : List Char) (blob : List UInt8), text.length < UInt64.size →
        (encode text).value = .ok blob →
        ∃ glyphs : List Glyph,
          (GlyphTable.mk blob height).lookups = glyphs.map some ∧
          (encodeWith policy (glyphs.flatMap Glyph.draw ++
            drawRows (GlyphTable.mk blob height).trailing)).value = .ok blob := by
  constructor
  · intro blob hblob
    refine ⟨_, GlyphTable.lookups_eq hblob, GlyphTable.glyphCount_mul_le _, ?_, ?_⟩
    · rw [flatMap_draw, GlyphTable.flatMap_slice]
      exact encodeWith_drawRows policy _
    · rw [GlyphTable.drawRows_blob]
      exact encodeWith_drawRows policy blob
  · intro text blob htext hencode
    have hblob : blob.length < UInt64.size := length_blob_lt htext hencode
    refine ⟨_, GlyphTable.lookups_eq hblob, ?_⟩
    rw [GlyphTable.drawRows_blob]
    exact encodeWith_drawRows policy blob

theorem encodeWith_drawings_trailing_row :
    (∃ glyphs : List Glyph,
      (GlyphTable.mk [2, 1, 255] 2).lookups = glyphs.map some ∧
      1 * 2 ≤ 3 ∧
      (encodeWith .exact (glyphs.flatMap Glyph.draw)).value = .ok [2, 1] ∧
      (encodeWith .exact (glyphs.flatMap Glyph.draw ++ drawRows [255])).value =
        .ok [2, 1, 255]) ∧
      (encode ['.', '*', '\n', '@']).value = .ok [1, 1] ∧
      ∃ glyphs : List Glyph,
        (GlyphTable.mk [1, 1] 2).lookups = glyphs.map some ∧
        (encodeWith .exact (glyphs.flatMap Glyph.draw ++ drawRows [])).value =
          .ok [1, 1] := by
  have hencode : (encode ['.', '*', '\n', '@']).value = .ok [1, 1] := by
    rw [encode, encodeWith_eq_ok_iff, RowCursor.items_eq_sourceTokens]
    rfl
  exact ⟨(encodeWith_drawings 2 .exact).1 [2, 1, 255] (by decide), hencode,
    (encodeWith_drawings 2 .exact).2 _ _ (by decide) hencode⟩

end BitmapFont
