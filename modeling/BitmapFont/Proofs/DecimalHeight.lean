import BitmapFont.CommandLine.Height
import BitmapFont.Proofs.FallibleSteps

/-!
# Heights in decimal

Digits are read one after the other, and the number that they stand for only grows, so
a number is refused exactly when all of its digits together are too large.  What fits
the word is then held against the range of heights, and nothing is lost on the way: a
text is read as a height exactly when it spells a number in the range.
-/

namespace BitmapFont.CommandLine

/-- The text spells a number: digits, any number of leading zeros among them, and
perhaps a plus sign before them. -/
def Numeral (text : List Char) (number : Nat) : Prop :=
  ∃ digits : List Char,
    (text = digits ∨ text = '+' :: digits) ∧ digits ≠ [] ∧
      (∀ c ∈ digits, c.isDigit) ∧ number = Nat.ofDigitChars 10 digits 0

theorem le_ofDigitChars (number : Nat) (digits : List Char) :
    number ≤ Nat.ofDigitChars 10 digits number := by
  induction digits generalizing number with
  | nil => exact Nat.le_refl _
  | cons c digits ih =>
      rw [Nat.ofDigitChars_cons]
      have hlonger := ih (10 * number + (c.toNat - '0'.toNat))
      omega

theorem readDigits_of_digits
    {limit number : Nat} {digits : List Char} (overflow : HeightFault)
    (hnumber : number ≤ limit) (hdigits : ∀ c ∈ digits, c.isDigit) :
    readDigits limit overflow number digits =
      if Nat.ofDigitChars 10 digits number ≤ limit then
        .ok (Nat.ofDigitChars 10 digits number)
      else
        .error overflow := by
  induction digits generalizing number with
  | nil => exact (if_pos hnumber).symm
  | cons c digits ih =>
      have hdigit : c.isDigit := hdigits c List.mem_cons_self
      have hrest : ∀ d ∈ digits, d.isDigit := fun d hd => hdigits d (List.mem_cons_of_mem c hd)
      have hzero : '0'.toNat = 48 := rfl
      rw [Nat.ofDigitChars_cons, hzero]
      simp only [readDigits, hdigit, if_true]
      by_cases hfits : 10 * number + (c.toNat - 48) ≤ limit
      · rw [if_pos hfits, ih hfits hrest]
      · have hgrows := le_ofDigitChars (10 * number + (c.toNat - 48)) digits
        rw [if_neg hfits, if_neg (by omega)]

theorem readInteger_of_digits
    {digits : List Char} (hsome : digits ≠ []) (hdigits : ∀ c ∈ digits, c.isDigit) :
    readInteger digits = (readDigits maxMagnitude .tooLarge 0 digits).map Int.ofNat := by
  obtain ⟨c, digits, rfl⟩ := List.exists_cons_of_ne_nil hsome
  have hdigit : c.isDigit := hdigits c List.mem_cons_self
  have hplus : c ≠ '+' := by rintro rfl; exact absurd hdigit (by decide)
  have hminus : c ≠ '-' := by rintro rfl; exact absurd hdigit (by decide)
  unfold readInteger
  split <;> simp_all

theorem digits_of_readDigits
    {limit number value : Nat} {overflow : HeightFault} {digits : List Char}
    (hread : readDigits limit overflow number digits = .ok value) :
    (∀ c ∈ digits, c.isDigit) ∧ value = Nat.ofDigitChars 10 digits number := by
  induction digits generalizing number with
  | nil => exact ⟨fun _ hc => absurd hc List.not_mem_nil, (Except.ok.inj hread).symm⟩
  | cons c digits ih =>
      unfold readDigits at hread
      split at hread
      · rename_i hdigit
        dsimp only at hread
        split at hread
        · obtain ⟨hdigits, hvalue⟩ := ih hread
          exact ⟨List.forall_mem_cons.mpr ⟨hdigit, hdigits⟩, hvalue⟩
        · contradiction
      · contradiction

/-- A positive word is read only from a numeral: a minus sign makes it negative or
zero. -/
theorem numeral_of_readInteger
    {text : List Char} {value : Int}
    (hread : readInteger text = .ok value) (hpos : 0 < value) :
    ∃ number : Nat, Numeral text number ∧ value = number := by
  unfold readInteger at hread
  split at hread
  case h_1 => contradiction
  case h_2 => contradiction
  case h_3 => contradiction
  case h_4 _ digits hsome =>
    obtain ⟨number, hnumber, rfl⟩ := ok_of_map_eq_ok hread
    obtain ⟨hdigits, hvalue⟩ := digits_of_readDigits hnumber
    exact ⟨number, ⟨digits, .inr rfl, hsome, hdigits, hvalue⟩, rfl⟩
  case h_5 =>
    obtain ⟨number, -, rfl⟩ := ok_of_map_eq_ok hread
    rw [Int.ofNat_eq_natCast] at hpos
    omega
  case h_6 hsome _ _ _ _ =>
    obtain ⟨number, hnumber, rfl⟩ := ok_of_map_eq_ok hread
    obtain ⟨hdigits, hvalue⟩ := digits_of_readDigits hnumber
    exact ⟨number, ⟨text, .inl rfl, hsome, hdigits, hvalue⟩, rfl⟩

theorem readInteger_of_numeral
    {text : List Char} {number : Nat}
    (hnumeral : Numeral text number) (hnumber : number ≤ maxMagnitude) :
    readInteger text = .ok (Int.ofNat number) := by
  obtain ⟨digits, htext, hsome, hdigits, rfl⟩ := hnumeral
  have hread :
      readDigits maxMagnitude .tooLarge 0 digits = .ok (Nat.ofDigitChars 10 digits 0) := by
    rw [readDigits_of_digits .tooLarge (Nat.zero_le _) hdigits, if_pos hnumber]
  rcases htext with rfl | rfl
  · rw [readInteger_of_digits hsome hdigits, hread]
    rfl
  · obtain ⟨c, rest, rfl⟩ := List.exists_cons_of_ne_nil hsome
    change (readDigits maxMagnitude .tooLarge 0 (c :: rest)).map Int.ofNat = _
    rw [hread]
    rfl

/-- A text is a height by the number that it spells, however it spells it. -/
theorem readHeight_eq_ok_iff {text : List Char} {height : UInt8} :
    readHeight text = .ok height ↔
      ∃ number, Numeral text number ∧ 1 ≤ number ∧ number ≤ 255 ∧
        height = UInt8.ofNat number := by
  constructor
  · intro hread
    unfold readHeight at hread
    split at hread
    · contradiction
    · rename_i value hvalue
      split at hread
      · rename_i hrange
        obtain ⟨number, hnumeral, rfl⟩ := numeral_of_readInteger hvalue (by omega)
        exact ⟨number, hnumeral, by omega, by omega, (Except.ok.inj hread).symm⟩
      · contradiction
  · rintro ⟨number, hnumeral, hlow, hhigh, rfl⟩
    have hread := readInteger_of_numeral hnumeral (by unfold maxMagnitude; omega)
    have hrange : 1 ≤ Int.ofNat number ∧ Int.ofNat number ≤ 255 := by
      rw [Int.ofNat_eq_natCast]
      omega
    simp only [readHeight, hread, if_pos hrange]
    rfl

theorem numeral_toString (number : Nat) : Numeral (toString number).toList number := by
  rw [Nat.toString_eq_ofList_toDigits, String.toList_ofList]
  refine ⟨Nat.toDigits 10 number, .inl rfl, Nat.toDigits_ne_nil, ?_, ?_⟩
  · exact fun c hc => Nat.isDigit_of_mem_toDigits (by decide) (by decide) hc
  · exact Nat.ofDigitChars_ten_toDigits.symm

theorem readHeight_toString
    {height : UInt8} (hheight : height ≠ 0) :
    readHeight (toString height.toNat).toList = .ok height := by
  have hlow : 0 < height.toNat := by
    have hne : height.toNat ≠ 0 := fun hzero => hheight (UInt8.toNat_inj.mp hzero)
    omega
  have hhigh : height.toNat < 256 := height.toNat_lt
  exact readHeight_eq_ok_iff.mpr
    ⟨height.toNat, numeral_toString _, hlow, by omega, UInt8.ofNat_toNat.symm⟩

theorem ne_zero_of_readHeight
    {text : List Char} {height : UInt8} (hread : readHeight text = .ok height) :
    height ≠ 0 := by
  obtain ⟨number, -, hlow, hhigh, rfl⟩ := readHeight_eq_ok_iff.mp hread
  intro hzero
  have hnumber := congrArg UInt8.toNat hzero
  rw [UInt8.toNat_ofNat_of_lt' (Nat.lt_succ_of_le hhigh)] at hnumber
  rw [hnumber] at hlow
  contradiction

end BitmapFont.CommandLine
