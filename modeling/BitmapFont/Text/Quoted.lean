import BitmapFont.Text.Extender
import BitmapFont.Text.Hex
import BitmapFont.Text.Unprintable

/-!
# Quoted characters

A character in single quotes, for messages and headings.  Six characters have
an escape of their own; a character that would not show, or would attach to the
quote before it, is written by its code point; all others stand for themselves.
-/

namespace BitmapFont.Text

def isFiller (c : Char) : Bool :=
  c == '\u115f' || c == '\u1160' || c == '\u3164' || c == '\uffa0'

/-- The halfwidth sound marks, grapheme extenders that take a cell of their own
and are as readable as the letters they follow. -/
def isHalfwidthMark (c : Char) : Bool :=
  c == '\uff9e' || c == '\uff9f'

/-- Whether a character is written by its code point because it would not show
or would attach to the quote before it. -/
def isHidden (c : Char) : Bool :=
  isUnprintable c || isFiller c || (isGraphemeExtend c && !isHalfwidthMark c)

def escape (c : Char) : List Char :=
  if c = '\x00' then ['\\', '0']
  else if c = '\t' then ['\\', 't']
  else if c = '\n' then ['\\', 'n']
  else if c = '\r' then ['\\', 'r']
  else if c = '\x27' then ['\\', '\x27']
  else if c = '\\' then ['\\', '\\']
  else if isHidden c then
    ['\\', 'u', '\x7b'] ++ hex .lower 1 c.toNat ++ ['\x7d']
  else [c]

def quoted (c : Char) : List Char :=
  '\x27' :: escape c ++ ['\x27']

end BitmapFont.Text
