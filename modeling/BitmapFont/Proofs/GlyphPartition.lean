import BitmapFont.Proofs.GlyphRoundTrip

/-!
# The parts of a blob

A table cuts its blob into glyphs and a rest too short for one more.  A lookup
computes with words, and still it answers for every index as arithmetic without
bounds would: an index whose glyph ends beyond what a word can count lies behind
the end of every blob that a word can measure.  So no index reaches a glyph that
belongs to another one, and every byte belongs to one glyph or to the rest.
-/

namespace BitmapFont

namespace GlyphTable

/-- The lookup as it would be made if numbers had no bounds. -/
def exactGet? (table : GlyphTable) (index : Nat) : Option Glyph :=
  let first := index * table.height.toNat
  let last := first + table.height.toNat
  if table.height = 0 ∨ table.blob.length < last then
    none
  else
    some ⟨table.blob.extract first last⟩

theorem slice_eq_extract (table : GlyphTable) (index : Nat) :
    table.slice index =
      ⟨table.blob.extract (index * table.height.toNat)
        (index * table.height.toNat + table.height.toNat)⟩ := by
  rw [slice, List.extract_eq_take_drop, Nat.add_sub_cancel_left]

theorem height_ne_zero_iff {table : GlyphTable} :
    table.height ≠ 0 ↔ 0 < table.height.toNat := by
  rw [Nat.pos_iff_ne_zero, ne_eq, ne_eq, ← UInt8.toNat_inj]
  rfl

/-- Without bounds too, the indices of glyphs are those below the number of glyphs. -/
theorem exactGet?_eq (table : GlyphTable) (index : Nat) :
    table.exactGet? index =
      if index < table.glyphCount then some (table.slice index) else none := by
  have hinside :
      index < table.glyphCount ↔
        ¬(table.height = 0 ∨
          table.blob.length < index * table.height.toNat + table.height.toNat) := by
    rw [lt_glyphCount_iff, not_or, ← ne_eq, height_ne_zero_iff, Nat.not_lt, Nat.add_one_mul]
  rw [exactGet?, slice_eq_extract]
  by_cases hcount : index < table.glyphCount
  · rw [if_pos hcount, if_neg (hinside.mp hcount)]
  · rw [if_neg hcount, if_pos (not_not.mp (mt hinside.mpr hcount))]

theorem glyphCount_of_height_eq_zero {table : GlyphTable} (hheight : table.height = 0) :
    table.glyphCount = 0 := by
  apply Nat.eq_zero_of_not_pos
  rw [lt_glyphCount_iff, ← height_ne_zero_iff]
  exact fun hcount => hcount.1 hheight

theorem getChar?_eq_get? (table : GlyphTable) (c : Char) :
    table.getChar? c = table.get? (UInt64.ofNat c.toNat) := by
  have hpoint : c.val.toUInt64 = UInt64.ofNat c.toNat := by
    rw [← UInt64.toNat_inj, UInt32.toNat_toUInt64]
    exact (UInt64.toNat_ofNat_of_lt' (Nat.lt_trans c.val.toNat_lt (by decide))).symm
  rw [getChar?, hpoint]

theorem length_trailing_lt {table : GlyphTable} (hheight : table.height ≠ 0) :
    table.trailing.length < table.height.toNat := by
  have hend : ¬table.glyphCount < table.glyphCount := Nat.lt_irrefl _
  have hpos : 0 < table.height.toNat := height_ne_zero_iff.mp hheight
  rw [lt_glyphCount_iff, Nat.add_one_mul] at hend
  rw [trailing, List.length_drop]
  omega

theorem flatMap_slices_append_trailing (table : GlyphTable) :
    ((List.range table.glyphCount).map table.slice).flatMap Glyph.rows ++ table.trailing =
      table.blob := by
  rw [flatMap_slice, trailing, List.take_append_drop]

end GlyphTable

/-- A table cuts its blob into as many glyphs as it counts, each at its own place
and of full height, and fewer bytes than one more glyph would take.  Lookups find
these glyphs and nothing else, whatever the index; without a height there are
none. -/
theorem glyphs_partition_blob
    (blob : List UInt8) (height : UInt8) (hblob : blob.length < UInt64.size) :
    let table : GlyphTable := ⟨blob, height⟩
    (∀ index : UInt64,
      table.get? index = table.exactGet? index.toNat ∧
      ((table.get? index).isSome = true ↔ index.toNat < table.glyphCount) ∧
      ∀ glyph, table.get? index = some glyph →
        glyph.rows = blob.extract (index.toNat * height.toNat)
          (index.toNat * height.toNat + height.toNat) ∧
        glyph.rows.length = height.toNat) ∧
    (height ≠ 0 → ∃ glyphs : List Glyph,
      table.lookups = glyphs.map some ∧
      glyphs.flatMap Glyph.rows ++ table.trailing = blob ∧
      table.trailing.length < height.toNat) ∧
    (height = 0 →
      table.glyphCount = 0 ∧ (∀ index, table.get? index = none) ∧
      ∀ c, table.getChar? c = none) ∧
    ∀ c : Char, table.getChar? c = table.get? (UInt64.ofNat c.toNat) := by
  intro table
  have hget : ∀ index : UInt64, table.get? index =
      if index.toNat < table.glyphCount then some (table.slice index.toNat) else none :=
    fun index => GlyphTable.get?_eq index hblob
  refine ⟨?_, ?_, ?_, table.getChar?_eq_get?⟩
  · intro index
    refine ⟨by rw [hget, GlyphTable.exactGet?_eq], ?_, ?_⟩
    · rw [hget]
      by_cases hcount : index.toNat < table.glyphCount <;> simp [hcount]
    · intro glyph hglyph
      obtain ⟨-, -, hend, rfl⟩ := GlyphTable.get?_eq_some_iff.mp hglyph
      exact ⟨by rw [GlyphTable.slice_eq_extract], GlyphTable.height_slice hend⟩
  · intro hheight
    exact ⟨_, GlyphTable.lookups_eq hblob, table.flatMap_slices_append_trailing,
      GlyphTable.length_trailing_lt hheight⟩
  · intro hheight
    have hcount : table.glyphCount = 0 := GlyphTable.glyphCount_of_height_eq_zero hheight
    have hnone : ∀ index, table.get? index = none := by
      intro index
      rw [hget, hcount, if_neg (Nat.not_lt_zero _)]
    refine ⟨hcount, hnone, fun c => ?_⟩
    rw [GlyphTable.getChar?_eq_get?]
    exact hnone _

/-- The last index here is one whose glyph a product of words would put at the
start of the blob. -/
theorem glyphs_partition_blob_five_bytes :
    let table : GlyphTable := ⟨[0, 1, 16, 17, 255], 2⟩
    (∃ glyphs : List Glyph,
      table.lookups = glyphs.map some ∧
      glyphs.flatMap Glyph.rows ++ [255] = [0, 1, 16, 17, 255] ∧ 1 < 2) ∧
    (table.get? 1).isSome = true ∧ table.get? 0x8000000000000000 = none := by
  have hparts := glyphs_partition_blob [0, 1, 16, 17, 255] 2 (by decide)
  exact ⟨hparts.2.1 (by decide), (hparts.1 1).2.1.mpr (by decide),
    (hparts.1 0x8000000000000000).1.trans (by decide)⟩

end BitmapFont
