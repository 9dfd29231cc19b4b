import BitmapFont.Text.Pattern.CharSet

/-!
# Encodings of sets of characters

The encodings of the characters of a set, written as rows of byte intervals: a
row stands for all choices of one byte from each of its intervals, and each
character of the set is encoded by one row only.
-/

namespace BitmapFont.Text

abbrev ByteRow := List Interval

/-- The rows for the numbers from one to another that are written with a digit
above the given offset and so many digits to the base 64 behind it. -/
def rowsBetween (offset : Nat) : Nat → Nat → Nat → List ByteRow
  | 0, low, high => [[⟨offset + low, offset + high⟩]]
  | digits + 1, low, high =>
      let unit := 64 ^ (digits + 1)
      let lead (first last : Nat) : Interval := ⟨offset + first, offset + last⟩
      let (first, last) := (low / unit, high / unit)
      let (start, stop) := (low % unit, high % unit)
      let behind (digit start stop : Nat) : List ByteRow :=
        (rowsBetween 0x80 digits start stop).map (lead digit digit :: ·)
      if first = last then
        behind first start stop
      else
        let (opening, first) :=
          if start = 0 then ([], first) else (behind first start (unit - 1), first + 1)
        let (closing, stop) :=
          if stop = unit - 1 then ([], last + 1) else (behind last 0 stop, last)
        let full : ByteRow := List.replicate (digits + 1) ⟨0x80, 0xBF⟩
        let middle := if first < stop then [lead first (stop - 1) :: full] else []
        opening ++ middle ++ closing

/-- The rows for the characters of an interval.  The code points from `D800` to
`DFFF` are no characters. -/
def Interval.encodings (interval : Interval) : List ByteRow :=
  let within (low high offset digits : Nat) : List ByteRow :=
    let low := max low interval.low
    let high := min high interval.high
    if low ≤ high then rowsBetween offset digits low high else []
  within 0 0x7F 0 0 ++ within 0x80 0x7FF 0xC0 1 ++ within 0x800 0xD7FF 0xE0 2 ++
    within 0xE000 0xFFFF 0xE0 2 ++ within 0x10000 0x10FFFF 0xF0 3

def CharSet.encodings (set : CharSet) : List ByteRow :=
  set.intervals.flatMap Interval.encodings

end BitmapFont.Text
