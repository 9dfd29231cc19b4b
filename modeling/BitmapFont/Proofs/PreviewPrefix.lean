import BitmapFont.Preview
import BitmapFont.Proofs.GlyphPartition
import BitmapFont.Proofs.SinkEncoding

/-!
# Previews cut short

A sink with little room holds the beginning of what a preview would write to one that
takes everything.  Where one write ends and the next begins makes no difference to that:
however the bytes are cut into pieces, the sink takes those it has room for, and the
first piece that goes beyond fails.

A character without a glyph writes nothing and leaves a warning.  So a preview that has
been stopped has warned about those of the characters before the one whose block did not
fit, and a preview that fits has warned about all of them, even where the sink is full
by then.
-/

namespace BitmapFont

open Text

namespace Sink

variable {capacity : Option Nat} {before : List UInt8}

/-- Pieces that are written one after the other come to their concatenation. -/
theorem foldlM_write_poured
    (pieces : List (List UInt8)) (hbefore : Fits capacity before.length) :
    pieces.foldlM write (poured capacity before) =
      if Fits capacity (before ++ pieces.flatten).length then
        .ok (poured capacity (before ++ pieces.flatten))
      else
        .error (poured capacity (before ++ pieces.flatten)) := by
  induction pieces generalizing before with
  | nil =>
      rw [List.flatten_nil, List.append_nil, if_pos hbefore]
      rfl
  | cons piece pieces ih =>
      rw [List.foldlM_cons, List.flatten_cons, ← List.append_assoc,
        write_poured piece hbefore]
      by_cases hpiece : Fits capacity (before ++ piece).length
      · rw [if_pos hpiece]
        exact ih hpiece
      · have hlater : ¬Fits capacity (before ++ piece ++ pieces.flatten).length :=
          fun hfits => hpiece (hfits.of_le (by simp))
        rw [if_neg hpiece, if_neg hlater, poured_append_of_not_fits _ hpiece]
        rfl

theorem poured_nil (capacity : Option Nat) : poured capacity [] = ofCapacity capacity := by
  cases capacity <;> simp [poured, ofCapacity]

end Sink

/-! ## What a preview says about each character -/

/-- The line over a drawing: the character in quotes, and its code point in capital
hexadecimal digits, four of them at least. -/
def headingLine (c : Char) : List Char :=
  quoted c ++ [' ', '(', 'U', '+'] ++
    ((Nat.toDigits 16 c.toNat).map Char.toUpper).leftpad 4 '0' ++ [')']

theorem headingLine_eq (c : Char) :
    headingLine c = quoted c ++ [' ', '(', 'U', '+'] ++ hex .upper 4 c.toNat ++ [')'] := by
  rw [headingLine, hex_upper]

theorem previewHeading_eq (c : Char) : previewHeading c = headingLine c ++ ['\n'] := by
  simp [previewHeading, headingLine_eq]

/-- A line for each byte, with a mark for each of its bits. -/
def drawnBits (bytes : List UInt8) : List Char :=
  bytes.flatMap fun byte =>
    ((List.range 8).map fun position =>
      if byte.toNat.testBit (7 - position) then '@' else '.') ++ ['\n']

theorem Glyph.draw_eq_drawnBits (glyph : Glyph) : glyph.draw = drawnBits glyph.rows := by
  have hrow (byte : UInt8) : (GlyphRow.mk byte).draw =
      (List.range 8).map fun position =>
        if byte.toNat.testBit (7 - position) then '@' else '.' := by
    rw [GlyphRow.draw, GlyphRow.pixels, List.map_map]
    refine List.map_congr_left fun position hposition => ?_
    rw [Function.comp_apply, GlyphRow.pixel_eq_testBit _ (List.mem_range.mp hposition)]
    rfl
  unfold draw drawnBits
  simp only [hrow]

/-- What a preview shows of a character: the drawing of its glyph under a heading, if it
has one. -/
def shownText (table : GlyphTable) (c : Char) : List Char :=
  if c.toNat < table.glyphCount then
    headingLine c ++ '\n' :: drawnBits (table.blob.extract
      (c.toNat * table.height.toNat) (c.toNat * table.height.toNat + table.height.toNat))
  else
    []

def previewText (table : GlyphTable) (chars : List Char) : List Char :=
  chars.flatMap (shownText table)

def shownBytes (table : GlyphTable) (c : Char) : List UInt8 :=
  encodeUtf8 (shownText table c)

theorem encodeUtf8_previewText (table : GlyphTable) (chars : List Char) :
    encodeUtf8 (previewText table chars) = chars.flatMap (shownBytes table) :=
  encodeUtf8_flatMap chars (shownText table)

/-- The warnings about those of the characters that have no glyph. -/
def glyphWarnings (table : GlyphTable) (chars : List Char) : List Event :=
  (chars.filter fun c => table.glyphCount ≤ c.toNat).map fun c =>
    .noGlyph c table.glyphCount

variable {table : GlyphTable} {c : Char}

theorem shownText_of_none (hc : table.getChar? c = none) : shownText table c = [] := by
  rw [GlyphTable.getChar?_eq] at hc
  simp_all [shownText]

theorem shownText_of_some
    {glyph : Glyph} (hc : table.getChar? c = some glyph) :
    shownText table c = previewBlock c glyph := by
  rw [GlyphTable.getChar?_eq] at hc
  split at hc
  · rename_i hcount
    obtain rfl := Option.some.inj hc
    rw [shownText, if_pos hcount, previewBlock, previewHeading_eq, List.append_assoc,
      Glyph.draw_eq_drawnBits, GlyphTable.slice_eq_extract]
    rfl
  · contradiction

theorem shownBytes_of_none (hc : table.getChar? c = none) : shownBytes table c = [] := by
  rw [shownBytes, shownText_of_none hc, encodeUtf8_nil]

theorem shownBytes_of_some
    {glyph : Glyph} (hc : table.getChar? c = some glyph) :
    shownBytes table c = encodeUtf8 (previewBlock c glyph) := by
  rw [shownBytes, shownText_of_some hc]

theorem glyphWarnings_cons_of_none
    (chars : List Char) (hc : table.getChar? c = none) :
    glyphWarnings table (c :: chars) =
      .noGlyph c table.glyphCount :: glyphWarnings table chars := by
  rw [GlyphTable.getChar?_eq] at hc
  have hcount : table.glyphCount ≤ c.toNat := by
    by_contra hless
    simp [Nat.not_le.mp hless] at hc
  simp [glyphWarnings, hcount]

theorem glyphWarnings_cons_of_some
    {glyph : Glyph} (chars : List Char) (hc : table.getChar? c = some glyph) :
    glyphWarnings table (c :: chars) = glyphWarnings table chars := by
  rw [GlyphTable.getChar?_eq] at hc
  have hcount : c.toNat < table.glyphCount := by
    by_contra hmore
    simp [hmore] at hc
  simp [glyphWarnings, hcount]

/-! ## A preview into a sink that has taken some bytes -/

section Pouring

variable {capacity : Option Nat} {before : List UInt8} {chars : List Char}

theorem previewFrom_of_fits
    (log : Array Event)
    (hfits : Sink.Fits capacity (before ++ chars.flatMap (shownBytes table)).length) :
    previewFrom .wide table chars (.poured capacity before) log =
      ⟨.ok (.poured capacity (before ++ chars.flatMap (shownBytes table))),
        log.toList ++ glyphWarnings table chars⟩ := by
  induction chars generalizing before log with
  | nil => simp [previewFrom, glyphWarnings]
  | cons c chars ih =>
      rw [List.flatMap_cons, ← List.append_assoc] at hfits ⊢
      cases hc : table.getChar? c with
      | none =>
          rw [shownBytes_of_none hc, List.append_nil] at hfits ⊢
          simp only [previewFrom, hc]
          rw [ih _ hfits, glyphWarnings_cons_of_none chars hc]
          simp
      | some glyph =>
          have hbefore : Sink.Fits capacity before.length := hfits.of_le (by simp)
          have hblock : Sink.Fits capacity (before ++ shownBytes table c).length :=
            hfits.of_le (by simp)
          have hwrite := Sink.write_poured (shownBytes table c) hbefore
          rw [if_pos hblock, shownBytes_of_some hc] at hwrite
          rw [shownBytes_of_some hc] at hfits ⊢
          simp only [previewFrom, hc, hwrite]
          rw [ih log hfits, glyphWarnings_cons_of_some chars hc]

/-- A preview that does not fit stops at the first character whose block goes beyond
the room there is. -/
theorem previewFrom_of_not_fits
    (log : Array Event) (hbefore : Sink.Fits capacity before.length)
    (hfull : ¬Sink.Fits capacity (before ++ chars.flatMap (shownBytes table)).length) :
    ∃ shown c rest,
      chars = shown ++ c :: rest ∧
      Sink.Fits capacity (before ++ shown.flatMap (shownBytes table)).length ∧
      ¬Sink.Fits capacity (before ++ (shown ++ [c]).flatMap (shownBytes table)).length ∧
      previewFrom .wide table chars (.poured capacity before) log =
        ⟨.error (.poured capacity (before ++ chars.flatMap (shownBytes table))),
          log.toList ++ glyphWarnings table shown⟩ := by
  induction chars generalizing before log with
  | nil => exact absurd (by simpa using hbefore) hfull
  | cons c chars ih =>
      rw [List.flatMap_cons, ← List.append_assoc] at hfull ⊢
      cases hc : table.getChar? c with
      | none =>
          rw [shownBytes_of_none hc, List.append_nil] at hfull ⊢
          obtain ⟨shown, last, rest, hchars, hshown, hlast, hpreview⟩ :=
            ih (log.push (.noGlyph c table.glyphCount)) hbefore hfull
          refine ⟨c :: shown, last, rest, by rw [hchars, List.cons_append], ?_, ?_, ?_⟩
          · simpa [shownBytes_of_none hc] using hshown
          · simpa [shownBytes_of_none hc] using hlast
          · simp only [previewFrom, hc, Gate.report_wide]
            rw [hpreview, glyphWarnings_cons_of_none shown hc]
            simp
      | some glyph =>
          have hwrite := Sink.write_poured (shownBytes table c) hbefore
          by_cases hblock : Sink.Fits capacity (before ++ shownBytes table c).length
          · obtain ⟨shown, last, rest, hchars, hshown, hlast, hpreview⟩ :=
              ih log hblock hfull
            rw [if_pos hblock] at hwrite
            refine ⟨c :: shown, last, rest, by rw [hchars, List.cons_append], ?_, ?_, ?_⟩
            · simpa using hshown
            · simpa using hlast
            · rw [shownBytes_of_some hc] at hwrite hpreview ⊢
              simp only [previewFrom, hc, hwrite]
              rw [hpreview, glyphWarnings_cons_of_some shown hc]
          · rw [if_neg hblock] at hwrite
            refine ⟨[], c, chars, rfl, by simpa using hbefore, by simpa using hblock, ?_⟩
            rw [Sink.poured_append_of_not_fits _ hblock]
            rw [shownBytes_of_some hc] at hwrite ⊢
            simp only [previewFrom, hc, hwrite]
            simp [glyphWarnings]

end Pouring

/-! ## A preview as a whole -/

/-- A text is what a preview writes, and a sink of any capacity holds as much of it as
it has room for. -/
structure PreviewWrites (table : GlyphTable) (chars : List Char) (text : List UInt8) :
    Prop where
  whole : preview table chars .unbounded =
    ⟨.ok ⟨none, text.toArray⟩, glyphWarnings table chars⟩
  blocks : text = chars.flatMap (shownBytes table)
  append : ∀ more, ∃ others,
    (preview table more .unbounded).value = .ok ⟨none, others.toArray⟩ ∧
      (preview table (chars ++ more) .unbounded).value = .ok ⟨none, (text ++ others).toArray⟩
  warned : ∀ event ∈ glyphWarnings table chars, event.level = .warn ∧
    ∃ c ∈ chars, table.getChar? c = none ∧
      event.message = "no glyph for " ++ String.ofList (quoted c) ++
        s!": output holds {table.glyphCount} glyphs"
  fits : ∀ capacity, text.length ≤ capacity →
    preview table chars (.ofCapacity (some capacity)) =
      ⟨.ok ⟨some capacity, text.toArray⟩, glyphWarnings table chars⟩
  cut : ∀ capacity, capacity < text.length →
    ∃ shown c rest,
      chars = shown ++ c :: rest ∧
      (shown.flatMap (shownBytes table)).length ≤ capacity ∧
      capacity < ((shown ++ [c]).flatMap (shownBytes table)).length ∧
      preview table chars (.ofCapacity (some capacity)) =
        ⟨.error ⟨some capacity, (text.take capacity).toArray⟩, glyphWarnings table shown⟩
  /-- It makes no difference in how many writes the text goes to the sink. -/
  pieces : ∀ (capacity : Option Nat) (pieces : List (List UInt8)), pieces.flatten = text →
    pieces.foldlM Sink.write (.ofCapacity capacity) =
      (preview table chars (.ofCapacity capacity)).value

theorem preview_of_fits
    {capacity : Option Nat} {chars : List Char}
    (hfits : Sink.Fits capacity (chars.flatMap (shownBytes table)).length) :
    preview table chars (.ofCapacity capacity) =
      ⟨.ok (.poured capacity (chars.flatMap (shownBytes table))),
        glyphWarnings table chars⟩ := by
  rw [preview, previewGated, ← Sink.poured_nil, previewFrom_of_fits _ hfits]
  rfl

theorem preview_of_not_fits
    {capacity : Option Nat} {chars : List Char}
    (hfull : ¬Sink.Fits capacity (chars.flatMap (shownBytes table)).length) :
    ∃ shown c rest,
      chars = shown ++ c :: rest ∧
      Sink.Fits capacity (shown.flatMap (shownBytes table)).length ∧
      ¬Sink.Fits capacity ((shown ++ [c]).flatMap (shownBytes table)).length ∧
      preview table chars (.ofCapacity capacity) =
        ⟨.error (.poured capacity (chars.flatMap (shownBytes table))),
          glyphWarnings table shown⟩ := by
  have hempty : Sink.Fits capacity ([] : List UInt8).length := fun _ _ => Nat.zero_le _
  obtain ⟨shown, c, rest, hchars, hshown, hlast, hpreview⟩ :=
    previewFrom_of_not_fits #[] hempty hfull
  refine ⟨shown, c, rest, hchars, hshown, hlast, ?_⟩
  rw [preview, previewGated, ← Sink.poured_nil, hpreview]
  rfl

/-- A preview that has all the room it needs writes all of its text. -/
theorem preview_unbounded (table : GlyphTable) (chars : List Char) :
    preview table chars .unbounded =
      ⟨.ok ⟨none, (encodeUtf8 (previewText table chars)).toArray⟩, glyphWarnings table chars⟩ := by
  rw [encodeUtf8_previewText]
  exact preview_of_fits (Sink.fits_none _)

/-- Whatever room a sink has, it holds the beginning of the text that the preview writes
to one with enough of it.  The preview fails exactly when the text is longer, and has
then warned about the characters without a glyph as far as it has come. -/
theorem preview_writes_prefix (blob : List UInt8) (height : UInt8) (chars : List Char) :
    ∃ text, PreviewWrites ⟨blob, height⟩ chars text := by
  have hblocks := encodeUtf8_previewText ⟨blob, height⟩ chars
  refine ⟨_, preview_unbounded _ chars, hblocks, ?append, ?warned, ?fits, ?cut, ?pieces⟩
  case append =>
    intro more
    refine ⟨_, congrArg Logged.value (preview_unbounded _ more), ?_⟩
    rw [preview_unbounded, previewText, List.flatMap_append, encodeUtf8_append]
    rfl
  case warned =>
    intro event hevent
    obtain ⟨c, hc, rfl⟩ := List.mem_map.mp hevent
    obtain ⟨hmem, hcount⟩ := List.mem_filter.mp hc
    refine ⟨rfl, c, hmem, ?_, rfl⟩
    rw [GlyphTable.getChar?_eq, if_neg (Nat.not_lt.mpr (of_decide_eq_true hcount))]
  case fits =>
    intro capacity hfits
    rw [hblocks] at hfits ⊢
    rw [← Sink.fits_some] at hfits
    rw [preview_of_fits hfits, Sink.poured_of_fits hfits]
  case cut =>
    intro capacity hfull
    rw [hblocks] at hfull ⊢
    rw [← Nat.not_le, ← Sink.fits_some] at hfull
    obtain ⟨shown, c, rest, hchars, hshown, hlast, hpreview⟩ := preview_of_not_fits hfull
    rw [Sink.fits_some] at hshown
    rw [Sink.fits_some, Nat.not_le] at hlast
    exact ⟨shown, c, rest, hchars, hshown, hlast, hpreview⟩
  case pieces =>
    intro capacity pieces hpieces
    have hempty : Sink.Fits capacity ([] : List UInt8).length := fun _ _ => Nat.zero_le _
    rw [← Sink.poured_nil, Sink.foldlM_write_poured pieces hempty, List.nil_append, hpieces,
      hblocks, Sink.poured_nil]
    split
    · rename_i hfits
      rw [preview_of_fits hfits]
    · rename_i hfull
      obtain ⟨shown, c, rest, -, -, -, hpreview⟩ := preview_of_not_fits hfull
      rw [hpreview]

end BitmapFont
