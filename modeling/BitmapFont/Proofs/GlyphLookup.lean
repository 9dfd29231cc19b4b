import BitmapFont.Glyph.Table

/-!
# Looking glyphs up

The words that a lookup computes with stand for numbers: a checked operation
gives a word exactly when some word is the exact result.  So a lookup finds the
slice of the blob that unbounded arithmetic names, and it finds one exactly for
the indices below the number of glyphs as long as the words suffice.  They do
for every blob that a word can measure, and for every character whatever the
blob.
-/

namespace BitmapFont

theorem checkedMul_eq_some_iff {a b c : UInt64} :
    checkedMul a b = some c ↔ c.toNat = a.toNat * b.toNat := by
  have hc : c.toNat < UInt64.size := c.toNat_lt
  by_cases hfit : a.toNat * b.toNat < UInt64.size
  · have hmul : (a * b).toNat = a.toNat * b.toNat := by
      rw [UInt64.toNat_mul]
      exact Nat.mod_eq_of_lt hfit
    rw [checkedMul, if_pos hfit, Option.some.injEq, ← UInt64.toNat_inj, hmul, eq_comm]
  · rw [checkedMul, if_neg hfit]
    simp only [reduceCtorEq, false_iff]
    omega

theorem checkedAdd_eq_some_iff {a b c : UInt64} :
    checkedAdd a b = some c ↔ c.toNat = a.toNat + b.toNat := by
  have hc : c.toNat < UInt64.size := c.toNat_lt
  by_cases hfit : a.toNat + b.toNat < UInt64.size
  · have hadd : (a + b).toNat = a.toNat + b.toNat := by
      rw [UInt64.toNat_add]
      exact Nat.mod_eq_of_lt hfit
    rw [checkedAdd, if_pos hfit, Option.some.injEq, ← UInt64.toNat_inj, hadd, eq_comm]
  · rw [checkedAdd, if_neg hfit]
    simp only [reduceCtorEq, false_iff]
    omega

namespace GlyphTable

/-- The glyph laid at an index, were indices unbounded. -/
def slice (table : GlyphTable) (index : Nat) : Glyph :=
  ⟨(table.blob.drop (index * table.height.toNat)).take table.height.toNat⟩

theorem height_slice
    {table : GlyphTable} {index : Nat}
    (hindex : (index + 1) * table.height.toNat ≤ table.blob.length) :
    (table.slice index).rows.length = table.height.toNat := by
  rw [Nat.add_one_mul] at hindex
  rw [slice, List.length_take, List.length_drop]
  omega

theorem height_eq_zero_iff {table : GlyphTable} :
    (table.height == 0) = true ↔ table.height.toNat = 0 := by
  rw [beq_iff_eq, ← UInt8.toNat_inj]
  rfl

/-- A lookup succeeds where the end of the glyph is a word and lies in the blob. -/
theorem get?_eq_some_iff {table : GlyphTable} {index : UInt64} {glyph : Glyph} :
    table.get? index = some glyph ↔
      0 < table.height.toNat ∧
      (index.toNat + 1) * table.height.toNat < UInt64.size ∧
      (index.toNat + 1) * table.height.toNat ≤ table.blob.length ∧
      glyph = table.slice index.toNat := by
  have hheight : table.height.toUInt64.toNat = table.height.toNat :=
    UInt8.toNat_toUInt64 table.height
  have hend :
      (index.toNat + 1) * table.height.toNat =
        index.toNat * table.height.toNat + table.height.toNat := Nat.add_one_mul _ _
  rw [get?]
  simp only [Option.bind_eq_bind, Option.bind_eq_some_iff, checkedMul_eq_some_iff,
    checkedAdd_eq_some_iff, hheight]
  constructor
  · rintro ⟨first, hfirst, last, hlast, hglyph⟩
    have hword : last.toNat < UInt64.size := last.toNat_lt
    split at hglyph
    · contradiction
    · rename_i hinside
      rw [Bool.or_eq_true, height_eq_zero_iff, decide_eq_true_iff] at hinside
      rw [Option.some.injEq, hfirst] at hglyph
      refine ⟨by omega, by omega, by omega, hglyph.symm⟩
  · rintro ⟨hpos, hword, hblob, rfl⟩
    have hfirst :
        (UInt64.ofNat (index.toNat * table.height.toNat)).toNat =
          index.toNat * table.height.toNat :=
      UInt64.toNat_ofNat_of_lt' (by omega)
    have hlast :
        (UInt64.ofNat ((index.toNat + 1) * table.height.toNat)).toNat =
          (index.toNat + 1) * table.height.toNat :=
      UInt64.toNat_ofNat_of_lt' hword
    refine ⟨_, hfirst, _, by rw [hlast, hfirst, hend], ?_⟩
    rw [if_neg, hfirst]
    · rfl
    · rw [Bool.or_eq_true, height_eq_zero_iff, decide_eq_true_iff]
      omega

theorem glyphCount_of_height_ne_zero
    {table : GlyphTable} (hheight : table.height ≠ 0) :
    table.glyphCount = table.blob.length / table.height.toNat := by
  rw [glyphCount, if_neg (by simpa using hheight)]

theorem lt_glyphCount_iff {table : GlyphTable} {index : Nat} :
    index < table.glyphCount ↔
      0 < table.height.toNat ∧
      (index + 1) * table.height.toNat ≤ table.blob.length := by
  rw [glyphCount]
  by_cases hzero : table.height.toNat = 0
  · rw [if_pos (height_eq_zero_iff.mpr hzero)]
    omega
  · have hpos : 0 < table.height.toNat := Nat.pos_of_ne_zero hzero
    rw [if_neg (by rw [height_eq_zero_iff]; exact hzero), ← Nat.succ_le_iff,
      Nat.le_div_iff_mul_le hpos]
    simp [hpos]

theorem get?_of_word
    {table : GlyphTable} {index : UInt64}
    (hword : (index.toNat + 1) * table.height.toNat < UInt64.size) :
    table.get? index =
      if index.toNat < table.glyphCount then some (table.slice index.toNat) else none := by
  by_cases hcount : index.toNat < table.glyphCount
  · obtain ⟨hpos, hblob⟩ := lt_glyphCount_iff.mp hcount
    rw [if_pos hcount]
    exact get?_eq_some_iff.mpr ⟨hpos, hword, hblob, rfl⟩
  · rw [if_neg hcount, Option.eq_none_iff_forall_ne_some]
    intro glyph hglyph
    obtain ⟨hpos, -, hblob, -⟩ := get?_eq_some_iff.mp hglyph
    exact hcount (lt_glyphCount_iff.mpr ⟨hpos, hblob⟩)

theorem get?_eq
    {table : GlyphTable} (index : UInt64) (hblob : table.blob.length < UInt64.size) :
    table.get? index =
      if index.toNat < table.glyphCount then some (table.slice index.toNat) else none := by
  by_cases hword : (index.toNat + 1) * table.height.toNat < UInt64.size
  · exact get?_of_word hword
  · have hcount : ¬index.toNat < table.glyphCount := by
      intro hcount
      have hend := (lt_glyphCount_iff.mp hcount).2
      omega
    rw [if_neg hcount, Option.eq_none_iff_forall_ne_some]
    intro glyph hglyph
    exact hword (get?_eq_some_iff.mp hglyph).2.1

theorem getChar?_eq (table : GlyphTable) (c : Char) :
    table.getChar? c =
      if c.toNat < table.glyphCount then some (table.slice c.toNat) else none := by
  have hpoint : c.val.toUInt64.toNat = c.toNat := UInt32.toNat_toUInt64 c.val
  have hchar : c.toNat < 0x110000 := by
    rcases c.valid with hlow | ⟨-, hhigh⟩
    · exact Nat.lt_trans hlow (by decide)
    · exact hhigh
  have hheight : table.height.toNat ≤ 255 := Nat.le_of_lt_succ table.height.toNat_lt
  have hword : (c.toNat + 1) * table.height.toNat < UInt64.size :=
    calc
      (c.toNat + 1) * table.height.toNat ≤ 0x110000 * 255 :=
        Nat.mul_le_mul (by omega) hheight
      _ < UInt64.size := by decide
  rw [getChar?, get?_of_word (by rwa [hpoint]), hpoint]

end GlyphTable

end BitmapFont
