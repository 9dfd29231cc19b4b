import BitmapFont.Glyph

/-!
# Glyph tables

A table reads a blob of packed rows as glyphs of one height laid back to back.
Indices are words of 64 bits; one whose glyph would begin or end beyond what a
word can count has no glyph, just as one beyond the blob.
-/

namespace BitmapFont

/-- The product of two words, unless it is too large for one. -/
def checkedMul (a b : UInt64) : Option UInt64 :=
  if a.toNat * b.toNat < UInt64.size then some (a * b) else none

def checkedAdd (a b : UInt64) : Option UInt64 :=
  if a.toNat + b.toNat < UInt64.size then some (a + b) else none

structure GlyphTable where
  blob : List UInt8
  height : UInt8
  deriving Repr, DecidableEq, Ord

namespace GlyphTable

def defaultHeight : UInt8 := 16

def get? (table : GlyphTable) (index : UInt64) : Option Glyph := do
  let height := table.height.toUInt64
  let first ← checkedMul index height
  let last ← checkedAdd first height
  if table.height == 0 || table.blob.length < last.toNat then
    none
  else
    some ⟨(table.blob.drop first.toNat).take table.height.toNat⟩

def getChar? (table : GlyphTable) (c : Char) : Option Glyph :=
  table.get? c.val.toUInt64

/-- The number of whole glyphs in the blob. -/
def glyphCount (table : GlyphTable) : Nat :=
  if table.height == 0 then 0 else table.blob.length / table.height.toNat

end GlyphTable

end BitmapFont
