/-!
# Hexadecimal numbers

Numbers in base sixteen, in either case of letters, padded with zeros to a
least width.
-/

namespace BitmapFont.Text

inductive HexCase where
  | lower
  | upper
  deriving Repr, DecidableEq

def HexCase.digit (letters : HexCase) (value : Nat) : Char :=
  if value < 10 then
    Char.ofNat (48 + value)
  else
    match letters with
    | .lower => Char.ofNat (87 + value)
    | .upper => Char.ofNat (55 + value)

/-- The sixteen digits in the order of their values. -/
def HexCase.digits : HexCase → List Char
  | .lower => ['0', '1', '2', '3', '4', '5', '6', '7', '8', '9', 'a', 'b', 'c', 'd', 'e', 'f']
  | .upper => ['0', '1', '2', '3', '4', '5', '6', '7', '8', '9', 'A', 'B', 'C', 'D', 'E', 'F']

theorem HexCase.getElem?_digits (letters : HexCase) {value : Nat} (hvalue : value < 16) :
    letters.digits[value]? = some (letters.digit value) := by
  revert value
  cases letters with
  | lower => decide
  | upper => decide

/-- The digits of a number, the most significant first; zero has one. -/
def hexDigits (letters : HexCase) (number : Nat) : List Char :=
  if number < 16 then
    [letters.digit number]
  else
    hexDigits letters (number / 16) ++ [letters.digit (number % 16)]
termination_by number

def hex (letters : HexCase) (width number : Nat) : List Char :=
  let digits := hexDigits letters number
  List.replicate (width - digits.length) '0' ++ digits

theorem hex_of_lt (letters : HexCase) (width : Nat) {number : Nat} (hnumber : number < 16) :
    hex letters (width + 1) number = List.replicate width '0' ++ [letters.digit number] := by
  have hdigits : hexDigits letters number = [letters.digit number] := by
    rw [hexDigits, if_pos hnumber]
  rw [hex, hdigits]
  rfl

theorem hex_of_le (letters : HexCase) (width : Nat) {number : Nat} (hnumber : 16 ≤ number) :
    hex letters (width + 1) number =
      hex letters width (number / 16) ++ [letters.digit (number % 16)] := by
  have hdigits : hexDigits letters number =
      hexDigits letters (number / 16) ++ [letters.digit (number % 16)] := by
    rw [hexDigits, if_neg (Nat.not_lt.mpr hnumber)]
  have hwidth (more : Nat) : width + 1 - (more + 1) = width - more := Nat.add_sub_add_right ..
  simp only [hex, hdigits, List.length_append, List.length_singleton, hwidth, List.append_assoc]

/-- In two places a byte has the digits of its halves. -/
theorem hex_byte (letters : HexCase) (byte : UInt8) :
    hex letters 2 byte.toNat =
      [letters.digit (byte.toNat / 16), letters.digit (byte.toNat % 16)] := by
  have hbyte : byte.toNat < 256 := byte.toNat_lt
  by_cases hsmall : byte.toNat < 16
  · have hhigh : byte.toNat / 16 = 0 := Nat.div_eq_of_lt hsmall
    have hlow : byte.toNat % 16 = byte.toNat := Nat.mod_eq_of_lt hsmall
    rw [hex_of_lt letters 1 hsmall, hhigh, hlow]
    rfl
  · have hhigh : byte.toNat / 16 < 16 := by omega
    rw [hex_of_le letters 1 (Nat.not_lt.mp hsmall), hex_of_lt letters 0 hhigh]
    rfl

/-! ## Capital digits of any number -/

theorem HexCase.digit_upper {value : Nat} (hvalue : value < 16) :
    HexCase.upper.digit value = value.digitChar.toUpper := by
  revert value
  decide

theorem hexDigits_upper (number : Nat) :
    hexDigits .upper number = (Nat.toDigits 16 number).map Char.toUpper := by
  fun_induction hexDigits .upper number with
  | case1 number hsmall =>
      rw [Nat.toDigits_of_lt_base hsmall, HexCase.digit_upper hsmall]
      rfl
  | case2 number hlarge ih =>
      rw [Nat.toDigits_of_base_le (by decide) (Nat.le_of_not_lt hlarge), List.map_append, ih,
        HexCase.digit_upper (Nat.mod_lt number (by decide))]
      rfl

theorem hex_upper (width number : Nat) :
    hex .upper width number = ((Nat.toDigits 16 number).map Char.toUpper).leftpad width '0' := by
  rw [hex, hexDigits_upper]
  rfl

end BitmapFont.Text
