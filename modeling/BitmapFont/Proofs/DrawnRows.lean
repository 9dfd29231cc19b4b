import BitmapFont.Proofs.SourceRows

/-!
# Drawings as sources

A drawn row is eight markers, so on a line of its own it is a full row and packs
to the byte it was drawn from.  The markers are neither leading space nor
breaks.  Nothing of a drawing is therefore trimmed, and its lines are the drawn
rows again with an empty line behind them.
-/

namespace BitmapFont

open Text

/-! ## Markers -/

theorem isLeadingSpace_of_isMarker
    {c : Char} (hc : isMarker c = true) : isLeadingSpace c = false := by
  simp only [isMarker, Bool.or_eq_true, beq_iff_eq] at hc
  rcases hc with (rfl | rfl) | rfl <;> decide

theorem isLineBreak_of_isMarker
    {c : Char} (hc : isMarker c = true) : isLineBreak c = false :=
  not_isLineBreak_of_not_isLeadingSpace (isLeadingSpace_of_isMarker hc)

theorem isMarker_mark (pixel : Bool) : isMarker (GlyphRow.mark pixel) = true := by
  cases pixel <;> decide

namespace GlyphRow

@[simp] theorem length_draw (row : GlyphRow) : row.draw.length = 8 := by
  simp [draw]

theorem isMarker_of_mem_draw
    {row : GlyphRow} {c : Char} (hc : c ∈ row.draw) : isMarker c = true := by
  obtain ⟨pixel, -, rfl⟩ := List.mem_map.mp hc
  exact isMarker_mark pixel

theorem draw_ne_nil (row : GlyphRow) : row.draw ≠ [] := by
  intro hnil
  have hlength := row.length_draw
  rw [hnil] at hlength
  contradiction

theorem pixels_of_draw (row : GlyphRow) : row.draw.map (· != '.') = row.pixels := by
  unfold draw
  rw [List.map_map]
  conv_rhs => rw [← List.map_id row.pixels]
  apply List.map_congr_left
  intro pixel _
  cases pixel <;> decide

theorem draw_of_pixels
    {row : GlyphRow} {markers : List Char}
    (hmarkers : ∀ c ∈ markers, c = '@' ∨ c = '.')
    (hpixels : row.pixels = markers.map (· != '.')) : row.draw = markers := by
  unfold draw
  rw [hpixels, List.map_map]
  conv_rhs => rw [← List.map_id markers]
  apply List.map_congr_left
  intro c hc
  rcases hmarkers c hc with rfl | rfl <;> decide

theorem ofLine?_draw (number : Nat) (row : GlyphRow) :
    RowToken.ofLine? number row.draw = some ⟨number, row.draw⟩ := by
  have hrun : row.draw.takeWhile isMarker = row.draw :=
    List.takeWhile_eq_self_iff.mpr fun c hc => isMarker_of_mem_draw hc
  obtain ⟨c, markers, hdraw⟩ := List.exists_cons_of_ne_nil row.draw_ne_nil
  unfold RowToken.ofLine?
  rw [hrun, hdraw]

theorem pack_draw (number : Nat) (row : GlyphRow) (policy : WidthPolicy) :
    (RowToken.mk number row.draw).pack policy = .ok row.bits := by
  have hwidth : (RowToken.mk number row.draw).width = 8 := row.length_draw
  have hallows : policy.allows (RowToken.mk number row.draw).width = true := by
    rw [hwidth]
    exact (WidthPolicy.allows_iff policy 8).mpr ⟨Nat.le_refl 8, fun _ => rfl⟩
  rw [RowToken.pack_of_allows hallows, RowToken.pixels, pixels_of_draw,
    foldl_pushPixel_pixels]

end GlyphRow

/-! ## Closed lines as sources -/

theorem tokensFrom_append (number : Nat) (lines behind : List (List Char)) :
    tokensFrom number (lines ++ behind) =
      tokensFrom number lines ++ tokensFrom (number + lines.length) behind := by
  unfold tokensFrom
  rw [List.zipIdx_append, List.filterMap_append]

theorem sourceTokens_of_inked
    {text : List Char} (htext : ∀ c, text.head? = some c → isLeadingSpace c = false) :
    sourceTokens text = tokensFrom 1 (Text.lines text) := by
  cases text with
  | nil => rfl
  | cons c rest =>
      have hc : ¬isLeadingSpace c = true := by simp [htext c rfl]
      rw [sourceTokens_eq, blankBreaks, List.takeWhile_cons_of_neg hc,
        List.dropWhile_cons_of_neg hc]
      rfl

theorem items_closeLines
    {closed : List (List Char)} (policy : WidthPolicy)
    (hclosed : ∀ line ∈ closed, ∀ c ∈ line, isLineBreak c = false)
    (hink : ∀ c, (closeLines closed).head? = some c → isLeadingSpace c = false) :
    Cursor.items (RowCursor.ofText (closeLines closed) policy) =
      (tokensFrom 1 closed).map (·.pack policy) := by
  rw [RowCursor.items_eq_sourceTokens, sourceTokens_of_inked hink,
    lines_closeLines hclosed, tokensFrom_append, tokensFrom_empty_line, List.append_nil]

/-! ## Drawn rows -/

def drawnLines (rows : List UInt8) : List (List Char) :=
  rows.map fun bits => (GlyphRow.mk bits).draw

theorem Glyph.draw_eq (glyph : Glyph) : glyph.draw = closeLines (drawnLines glyph.rows) := by
  unfold Glyph.draw closeLines drawnLines
  rw [List.flatMap_map]

theorem isMarker_of_mem_drawnLines
    {rows : List UInt8} {line : List Char} {c : Char}
    (hline : line ∈ drawnLines rows) (hc : c ∈ line) : isMarker c = true := by
  obtain ⟨bits, -, rfl⟩ := List.mem_map.mp hline
  exact GlyphRow.isMarker_of_mem_draw hc

theorem pack_drawnLines (policy : WidthPolicy) (number : Nat) (rows : List UInt8) :
    (tokensFrom number (drawnLines rows)).map (·.pack policy) = rows.map .ok := by
  induction rows generalizing number with
  | nil => rfl
  | cons bits rows ih =>
      have hrest := ih (number + 1)
      unfold drawnLines at hrest ⊢
      rw [List.map_cons, tokensFrom_cons_of_some _ (GlyphRow.ofLine?_draw number ⟨bits⟩),
        List.map_cons, GlyphRow.pack_draw, hrest, List.map_cons]

theorem head?_drawnLines
    (rows : List UInt8) (c : Char)
    (hhead : (closeLines (drawnLines rows)).head? = some c) : isMarker c = true := by
  cases rows with
  | nil => contradiction
  | cons bits rows =>
      obtain ⟨d, markers, hdraw⟩ :=
        List.exists_cons_of_ne_nil (GlyphRow.mk bits).draw_ne_nil
      have hd : d ∈ (GlyphRow.mk bits).draw := by
        rw [hdraw]
        exact List.mem_cons_self
      simp only [drawnLines, List.map_cons, closeLines_cons, hdraw, List.cons_append,
        List.head?_cons, Option.some.injEq] at hhead
      rw [← hhead]
      exact GlyphRow.isMarker_of_mem_draw hd

/-- Encoding a drawing gives the rows that were drawn. -/
theorem encodeWith_drawnLines (policy : WidthPolicy) (rows : List UInt8) :
    (encodeWith policy (closeLines (drawnLines rows))).value = .ok rows := by
  rw [encodeWith_eq_ok_iff, items_closeLines policy, pack_drawnLines]
  · intro line hline c hc
    exact isLineBreak_of_isMarker (isMarker_of_mem_drawnLines hline hc)
  · intro c hhead
    exact isLeadingSpace_of_isMarker (head?_drawnLines rows c hhead)

end BitmapFont
