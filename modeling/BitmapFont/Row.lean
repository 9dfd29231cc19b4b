/-!
# Glyph rows

A glyph row is the run of markers that opens a line: `.` for a pixel that is
off, `*` or `@` for one that is on.  Packed, it is one byte with the leftmost
pixel in the most significant bit.
-/

namespace BitmapFont

def rowWidth : Nat := 8

def isMarker (c : Char) : Bool :=
  c == '.' || c == '*' || c == '@'

def isMarkerByte (byte : UInt8) : Bool :=
  byte == 0x2E || byte == 0x2A || byte == 0x40

/-- What becomes of rows that are not full.  Rows that are too wide are always
refused. -/
inductive WidthPolicy where
  /-- A narrow row is packed as if off pixels stood to its left. -/
  | lenient
  /-- A narrow row is refused. -/
  | exact
  deriving Repr, DecidableEq

def WidthPolicy.allows : WidthPolicy → Nat → Bool
  | .lenient, width => width ≤ rowWidth
  | .exact, width => width == rowWidth

structure WidthError where
  line : Nat
  width : Nat
  policy : WidthPolicy
  deriving Repr, DecidableEq

def WidthError.message (error : WidthError) : String :=
  let bound :=
    match error.policy with
    | .lenient => "at most"
    | .exact => "exactly"
  s!"line {error.line}: glyph row is {error.width} pixels wide, expected {bound} {rowWidth}"

/-- A glyph row as it stands in a source: the number of its line, counted from
one, and its markers. -/
structure RowToken where
  line : Nat
  markers : List Char
  deriving Repr, DecidableEq

namespace RowToken

def ofLine? (number : Nat) (line : List Char) : Option RowToken :=
  match line.takeWhile isMarker with
  | [] => none
  | markers@(_ :: _) => some ⟨number, markers⟩

def width (token : RowToken) : Nat :=
  token.markers.length

def pixels (token : RowToken) : List Bool :=
  token.markers.map (· != '.')

def pushPixel (byte : UInt8) (pixel : Bool) : UInt8 :=
  byte <<< 1 ||| pixel.toUInt8

/-- The row as one byte, unless its width is refused. -/
def pack (token : RowToken) (policy : WidthPolicy) : Except WidthError UInt8 :=
  if policy.allows token.width then
    .ok (token.pixels.foldl pushPixel 0)
  else
    .error ⟨token.line, token.width, policy⟩

end RowToken

end BitmapFont
