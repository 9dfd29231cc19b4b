/-!
# Text as bytes

The encoding of a text in UTF-8 and its inverse, which refuses every sequence
of bytes that no text has.
-/

namespace BitmapFont.Text

def encodeUtf8 (text : List Char) : List UInt8 :=
  text.flatMap String.utf8EncodeChar

@[simp] theorem encodeUtf8_nil : encodeUtf8 [] = [] := rfl

theorem encodeUtf8_cons (c : Char) (text : List Char) :
    encodeUtf8 (c :: text) = String.utf8EncodeChar c ++ encodeUtf8 text := rfl

theorem encodeUtf8_append (text more : List Char) :
    encodeUtf8 (text ++ more) = encodeUtf8 text ++ encodeUtf8 more :=
  List.flatMap_append

theorem encodeUtf8_flatMap {α : Type} (items : List α) (spell : α → List Char) :
    encodeUtf8 (items.flatMap spell) = items.flatMap fun item => encodeUtf8 (spell item) :=
  List.flatMap_assoc

theorem length_le_length_encodeUtf8 (text : List Char) :
    text.length ≤ (encodeUtf8 text).length := by
  induction text with
  | nil => exact Nat.le_refl 0
  | cons c text ih =>
      have hsize := c.utf8Size_pos
      rw [encodeUtf8_cons, List.length_append, String.length_utf8EncodeChar, List.length_cons]
      omega

def decodeUtf8? (bytes : List UInt8) : Option (List Char) :=
  (String.fromUTF8? bytes.toByteArray).map String.toList

end BitmapFont.Text
