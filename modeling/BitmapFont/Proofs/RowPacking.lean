import BitmapFont.Glyph
import BitmapFont.Row
import Mathlib.Data.List.Induction
import Mathlib.Data.Nat.Digits.Defs

/-!
# Packing and unpacking rows

The encoder packs pixels by shifting them in from the right; the glyph table
unpacks a byte by shifting each position down to the lowest bit.  One law joins
the two: shifting a pixel in moves all pixels one place to the left.  Hence up
to eight packed pixels come back behind off pixels, and the eight pixels of a
byte pack to that byte.

A row of a source packs to this byte if the policy allows its width, and is refused by
its line and its width if not.
-/

namespace BitmapFont

/-! ## Bits of a byte -/

theorem GlyphRow.pixel_eq_testBit
    (row : GlyphRow) {position : Nat} (hposition : position < 8) :
    row.pixel position = row.bits.toNat.testBit (7 - position) := by
  have hshift : (7 - position) % 2 ^ 8 % 8 = 7 - position := by omega
  have hone : (1 : UInt8).toNat = 1 := rfl
  rw [pixel, Nat.testBit, Bool.eq_iff_iff]
  simp only [beq_iff_eq, bne_iff_ne, ← UInt8.toNat_inj, UInt8.toNat_and,
    UInt8.toNat_shiftRight, UInt8.toNat_ofNat', hshift, hone]
  rw [Nat.and_one_is_mod, Nat.one_and_eq_mod_two]
  omega

theorem RowToken.toNat_pushPixel (byte : UInt8) (pixel : Bool) :
    (pushPixel byte pixel).toNat = (2 * byte.toNat + pixel.toNat) % 256 := by
  have hpixel : pixel.toUInt8.toNat = pixel.toNat := by cases pixel <;> rfl
  have hlow : pixel.toNat < 2 ^ 1 := by cases pixel <;> decide
  have hhigh : byte.toNat <<< 1 % 2 ^ 8 = (byte.toNat % 128) <<< 1 := by
    rw [Nat.shiftLeft_eq, Nat.shiftLeft_eq]
    omega
  have hbyte : (byte <<< 1).toNat = (byte.toNat % 128) <<< 1 := by
    rw [UInt8.toNat_shiftLeft, ← hhigh]
    rfl
  rw [pushPixel, UInt8.toNat_or, hbyte, hpixel, ← Nat.shiftLeft_add_eq_or_of_lt hlow,
    Nat.shiftLeft_eq]
  omega

namespace GlyphRow

theorem pixel_pushPixel_of_lt
    (byte : UInt8) (pixel : Bool) {position : Nat} (hposition : position < 7) :
    (mk (RowToken.pushPixel byte pixel)).pixel position =
      (mk byte).pixel (position + 1) := by
  have hhalf : (2 * byte.toNat + pixel.toNat) % 256 / 2 = byte.toNat % 2 ^ 7 := by
    have hpixel : pixel.toNat ≤ 1 := pixel.toNat_le
    omega
  have hbit : 7 - position = 7 - (position + 1) + 1 := by omega
  have hsmall : 7 - (position + 1) < 7 := by omega
  rw [pixel_eq_testBit _ (by omega), pixel_eq_testBit _ (by omega),
    RowToken.toNat_pushPixel, hbit, Nat.testBit_succ, hhalf, Nat.testBit_mod_two_pow,
    decide_eq_true hsmall, Bool.true_and]

theorem pixel_pushPixel_last (byte : UInt8) (pixel : Bool) :
    (mk (RowToken.pushPixel byte pixel)).pixel 7 = pixel := by
  rw [pixel_eq_testBit _ (by omega), RowToken.toNat_pushPixel, Nat.testBit_zero]
  cases pixel <;> simp

theorem pixels_pushPixel (byte : UInt8) (pixel : Bool) :
    (mk (RowToken.pushPixel byte pixel)).pixels = (mk byte).pixels.tail ++ [pixel] := by
  have hlater :
      (List.range 7).map (mk (RowToken.pushPixel byte pixel)).pixel =
        (List.range 7).map fun position => (mk byte).pixel (position + 1) := by
    apply List.map_congr_left
    intro position hposition
    exact pixel_pushPixel_of_lt byte pixel (List.mem_range.mp hposition)
  have htail :
      (mk byte).pixels.tail =
        (List.range 7).map fun position => (mk byte).pixel (position + 1) := rfl
  rw [htail, ← hlater, pixels, List.range_succ, List.map_append, List.map_singleton,
    pixel_pushPixel_last]

@[simp] theorem length_pixels (row : GlyphRow) : row.pixels.length = 8 := by
  simp [pixels]

/-! ## A whole row -/

/-- Packed pixels come back behind as many off pixels as the row lacks. -/
theorem pixels_foldl_pushPixel
    (pixels : List Bool) (hpixels : pixels.length ≤ 8) :
    (mk (pixels.foldl RowToken.pushPixel 0)).pixels =
      List.replicate (8 - pixels.length) false ++ pixels := by
  induction pixels using List.reverseRecOn with
  | nil => rfl
  | append_singleton pixels pixel ih =>
      rw [List.length_append, List.length_singleton] at hpixels
      have hroom : 8 - pixels.length = 8 - (pixels.length + 1) + 1 := by omega
      rw [List.foldl_append, List.foldl_cons, List.foldl_nil, pixels_pushPixel,
        ih (by omega), hroom, List.replicate_succ, List.length_append,
        List.length_singleton, List.cons_append, List.tail_cons, List.append_assoc]

theorem eq_of_pixels_eq {row other : GlyphRow} (hpixels : row.pixels = other.pixels) :
    row = other := by
  have hpixel : ∀ position < 8, row.pixel position = other.pixel position := by
    intro position hposition
    exact (List.map_inj_left.mp hpixels) position (List.mem_range.mpr hposition)
  obtain ⟨bits⟩ := row
  obtain ⟨others⟩ := other
  congr 1
  apply UInt8.toNat_inj.mp
  apply Nat.eq_of_testBit_eq
  intro place
  by_cases hplace : place < 8
  · have hbit := hpixel (7 - place) (by omega)
    rw [pixel_eq_testBit _ (by omega), pixel_eq_testBit _ (by omega)] at hbit
    simpa [show 7 - (7 - place) = place by omega] using hbit
  · have hpow : 2 ^ 8 ≤ 2 ^ place := Nat.pow_le_pow_right (by omega) (by omega)
    rw [Nat.testBit_lt_two_pow (Nat.lt_of_lt_of_le bits.toNat_lt hpow),
      Nat.testBit_lt_two_pow (Nat.lt_of_lt_of_le others.toNat_lt hpow)]

theorem foldl_pushPixel_pixels (row : GlyphRow) :
    row.pixels.foldl RowToken.pushPixel 0 = row.bits := by
  have hback := pixels_foldl_pushPixel row.pixels (by simp)
  rw [length_pixels, Nat.sub_self, List.replicate_zero, List.nil_append] at hback
  exact congrArg bits (eq_of_pixels_eq hback)

end GlyphRow

/-- A packed row is the number that its pixels write in base two. -/
theorem RowToken.toNat_foldl_pushPixel
    (pixels : List Bool) (hpixels : pixels.length ≤ 8) :
    (pixels.foldl pushPixel 0).toNat =
      Nat.ofDigits 2 (pixels.reverse.map Bool.toNat) := by
  induction pixels using List.reverseRecOn with
  | nil => rfl
  | append_singleton pixels pixel ih =>
      rw [List.length_append, List.length_singleton] at hpixels
      have hdigits : ∀ digit ∈ pixels.reverse.map Bool.toNat, digit < 2 := by
        intro digit hdigit
        obtain ⟨bit, -, rfl⟩ := List.mem_map.mp hdigit
        exact bit.toNat_lt
      have hbound : Nat.ofDigits 2 (pixels.reverse.map Bool.toNat) < 2 ^ pixels.length := by
        simpa using Nat.ofDigits_lt_base_pow_length (by decide) hdigits
      have hroom : 2 ^ pixels.length ≤ 2 ^ 7 := Nat.pow_le_pow_right (by decide) (by omega)
      have hpixel : pixel.toNat ≤ 1 := pixel.toNat_le
      rw [List.foldl_append, List.foldl_cons, List.foldl_nil, toNat_pushPixel,
        ih (by omega), List.reverse_append, List.reverse_singleton, List.singleton_append,
        List.map_cons, Nat.ofDigits_cons]
      omega

/-! ## Allowed widths -/

theorem WidthPolicy.allows_iff (policy : WidthPolicy) (width : Nat) :
    policy.allows width = true ↔ width ≤ 8 ∧ (policy = .exact → width = 8) := by
  cases policy with
  | lenient =>
      have hlenient : WidthPolicy.lenient.allows width = true ↔ width ≤ 8 :=
        decide_eq_true_iff
      simp [hlenient]
  | exact =>
      simp only [allows, rowWidth, beq_iff_eq, true_imp_iff]
      omega

namespace RowToken

variable {token : RowToken} {policy : WidthPolicy}

theorem pack_of_allows (hallows : policy.allows token.width = true) :
    token.pack policy = .ok (token.pixels.foldl pushPixel 0) := by
  rw [pack, if_pos hallows]

theorem pack_of_not_allows (hallows : ¬policy.allows token.width = true) :
    token.pack policy = .error ⟨token.line, token.width, policy⟩ := by
  rw [pack, if_neg hallows]

theorem allows_of_pack {byte : UInt8} (hpack : token.pack policy = .ok byte) :
    policy.allows token.width = true ∧ byte = token.pixels.foldl pushPixel 0 := by
  by_cases hallows : policy.allows token.width = true
  · rw [pack_of_allows hallows] at hpack
    exact ⟨hallows, (Except.ok.inj hpack).symm⟩
  · rw [pack_of_not_allows hallows] at hpack
    contradiction

theorem refused_of_pack {error : WidthError} (hpack : token.pack policy = .error error) :
    ¬policy.allows token.width = true ∧ error = ⟨token.line, token.width, policy⟩ := by
  by_cases hallows : policy.allows token.width = true
  · rw [pack_of_allows hallows] at hpack
    contradiction
  · rw [pack_of_not_allows hallows] at hpack
    exact ⟨hallows, (Except.error.inj hpack).symm⟩

end RowToken

end BitmapFont
