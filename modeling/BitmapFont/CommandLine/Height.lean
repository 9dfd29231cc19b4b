import BitmapFont.CommandLine

/-!
# Glyph heights

A glyph height is written in decimal, with or without a sign and with any
number of leading zeros, and lies between 1 and 255.  It is read as a signed
word of 64 bits first: a number that does not fit is reported as such, and at
the digit that makes it too large, before anything behind that digit is looked
at.
-/

namespace BitmapFont.CommandLine

def readDigits (limit : Nat) (overflow : HeightFault) :
    Nat → List Char → Except HeightFault Nat
  | number, [] => .ok number
  | number, c :: rest =>
      if c.isDigit then
        let longer := 10 * number + (c.toNat - 48)
        if longer ≤ limit then readDigits limit overflow longer rest else .error overflow
      else
        .error .invalidDigit

def minMagnitude : Nat := 0x8000000000000000

def maxMagnitude : Nat := 0x7FFFFFFFFFFFFFFF

def readInteger : List Char → Except HeightFault Int
  | [] => .error .empty
  | ['+'] | ['-'] => .error .invalidDigit
  | '+' :: digits => (readDigits maxMagnitude .tooLarge 0 digits).map Int.ofNat
  | '-' :: digits =>
      (readDigits minMagnitude .tooSmall 0 digits).map fun number => -Int.ofNat number
  | digits => (readDigits maxMagnitude .tooLarge 0 digits).map Int.ofNat

def readHeight (text : List Char) : Except HeightFault UInt8 :=
  match readInteger text with
  | .error fault => .error fault
  | .ok value =>
      if 1 ≤ value ∧ value ≤ 255 then
        .ok (UInt8.ofNat value.toNat)
      else
        .error (.outOfRange value)

end BitmapFont.CommandLine
