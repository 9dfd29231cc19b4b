import BitmapFont.Cursor

/-!
# Glyphs

A glyph is a stack of packed rows.  Drawn as text, a row is eight characters
and a glyph is its rows from the top down, each on a line of its own; the
characters are markers, so a drawing is a source for the same rows.
-/

namespace BitmapFont

/-- A row of eight pixels, the leftmost in the most significant bit. -/
structure GlyphRow where
  bits : UInt8
  deriving Repr, DecidableEq, Ord

namespace GlyphRow

def pixel (row : GlyphRow) (position : Nat) : Bool :=
  (row.bits >>> UInt8.ofNat (7 - position)) &&& 1 == 1

def pixels (row : GlyphRow) : List Bool :=
  (List.range 8).map row.pixel

def mark (pixel : Bool) : Char :=
  if pixel then '@' else '.'

def draw (row : GlyphRow) : List Char :=
  row.pixels.map mark

end GlyphRow

structure PixelCursor where
  row : GlyphRow
  position : Nat
  deriving Repr, DecidableEq

namespace PixelCursor

def ofRow (row : GlyphRow) : PixelCursor :=
  ⟨row, 0⟩

def next (cursor : PixelCursor) : Pull PixelCursor Bool :=
  if cursor.position < 8 then
    ⟨some (cursor.row.pixel cursor.position), [],
      { cursor with position := cursor.position + 1 }⟩
  else
    ⟨none, [], cursor⟩

instance : Cursor PixelCursor Bool where
  next := next
  size cursor := 8 - cursor.position
  size_next cursor pixel hpixel := by
    unfold next at hpixel ⊢
    split
    · simp only
      omega
    · simp_all

end PixelCursor

structure Glyph where
  rows : List UInt8
  deriving Repr, DecidableEq, Ord

namespace Glyph

def height (glyph : Glyph) : Nat :=
  glyph.rows.length

def draw (glyph : Glyph) : List Char :=
  glyph.rows.flatMap fun bits => (GlyphRow.mk bits).draw ++ ['\n']

end Glyph

structure GlyphCursor where
  rows : List UInt8
  deriving Repr, DecidableEq

namespace GlyphCursor

def ofGlyph (glyph : Glyph) : GlyphCursor :=
  ⟨glyph.rows⟩

def next (cursor : GlyphCursor) : Pull GlyphCursor GlyphRow :=
  match cursor.rows with
  | [] => ⟨none, [], cursor⟩
  | bits :: rows => ⟨some ⟨bits⟩, [], ⟨rows⟩⟩

instance : Cursor GlyphCursor GlyphRow where
  next := next
  size cursor := cursor.rows.length
  size_next cursor row hrow := by
    obtain ⟨rows⟩ := cursor
    cases rows with
    | nil => simp [next] at hrow
    | cons => simp [next]

end GlyphCursor

end BitmapFont
