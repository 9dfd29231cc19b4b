import BitmapFont.Glyph.Table
import BitmapFont.Sink
import BitmapFont.Text.Utf8

/-!
# Previews

A preview shows the glyphs of given characters, each as a drawing under a
heading that names the character.  A character without a glyph is passed over
with a warning.
-/

namespace BitmapFont

def previewHeading (c : Char) : List Char :=
  Text.quoted c ++ [' ', '(', 'U', '+'] ++ Text.hex .upper 4 c.toNat ++ [')', '\n']

def previewBlock (c : Char) (glyph : Glyph) : List Char :=
  previewHeading c ++ glyph.draw

def previewFrom (gate : Gate) (table : GlyphTable) :
    List Char → Sink → Array Event → Logged (Except Sink Sink)
  | [], sink, log => ⟨.ok sink, log.toList⟩
  | c :: rest, sink, log =>
      match table.getChar? c with
      | none =>
          previewFrom gate table rest sink (gate.report log (.noGlyph c table.glyphCount))
      | some glyph =>
          match sink.write (Text.encodeUtf8 (previewBlock c glyph)) with
          | .ok sink => previewFrom gate table rest sink log
          | .error sink => ⟨.error sink, log.toList⟩

/-- Shows the glyphs of the characters in a blob.  Either way the result holds
the sink as the preview leaves it. -/
def previewGated (gate : Gate) (table : GlyphTable) (chars : List Char) (sink : Sink) :
    Logged (Except Sink Sink) :=
  previewFrom gate table chars sink #[]

def preview (table : GlyphTable) (chars : List Char) (sink : Sink) :
    Logged (Except Sink Sink) :=
  previewGated .wide table chars sink

theorem previewGated_wide (table : GlyphTable) (chars : List Char) (sink : Sink) :
    previewGated .wide table chars sink = preview table chars sink := rfl

end BitmapFont
