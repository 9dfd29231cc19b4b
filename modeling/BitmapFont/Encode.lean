import BitmapFont.Row.Cursor
import BitmapFont.Sink

/-!
# Encoding a source

A source is encoded as one byte for every glyph row, in order.  The first row
that is refused stops the encoding.  `encode` gives the bytes as a whole and
`encodeInto` writes them to a sink one row at a time, so that the rows before
a failure have been written.  Both are the same for a cursor with a gate.
-/

namespace BitmapFont

def encodeRows {σ : Type} [Cursor σ RowItem] (rows : σ) :
    Logged (Except WidthError (List UInt8)) :=
  let encoded :=
    Cursor.feed (fun (blob : Array UInt8) (item : RowItem) => item.map blob.push) #[] rows
  ⟨encoded.value.map Array.toList, encoded.events⟩

def encodeWith (policy : WidthPolicy) (text : List Char) :
    Logged (Except WidthError (List UInt8)) :=
  encodeRows (RowCursor.ofText text policy)

def encode (text : List Char) : Logged (Except WidthError (List UInt8)) :=
  encodeWith .lenient text

inductive EncodeError where
  | row (error : WidthError)
  | full
  deriving Repr, DecidableEq

namespace EncodeError

def source : EncodeError → String
  | row error => error.message
  | full => Sink.fullMessage

def message (error : EncodeError) : String :=
  match error with
  | row _ => "invalid glyph row: " ++ error.source
  | full => "error writing glyph row: " ++ error.source

end EncodeError

/-- Rows on their way into a sink. -/
structure Written where
  rows : Nat
  sink : Sink
  deriving Repr, DecidableEq

/-- Writes one row.  A refused row is found before its write is tried; a
failure carries the sink as it is then. -/
def Written.push (done : Written) (item : RowItem) : Except (EncodeError × Sink) Written :=
  match item with
  | .error error => .error (.row error, done.sink)
  | .ok byte =>
      match done.sink.write [byte] with
      | .ok sink => .ok ⟨done.rows + 1, sink⟩
      | .error sink => .error (.full, sink)

def writeRows {σ : Type} [Cursor σ RowItem] (rows : σ) (sink : Sink) :
    Logged (Except (EncodeError × Sink) Written) :=
  Cursor.feed Written.push ⟨0, sink⟩ rows

def encodeInto (policy : WidthPolicy) (text : List Char) (sink : Sink) :
    Logged (Except (EncodeError × Sink) Written) :=
  writeRows (RowCursor.ofText text policy) sink

def encodeIntoGated (gate : Gate) (policy : WidthPolicy) (text : List Char) (sink : Sink) :
    Logged (Except (EncodeError × Sink) Written) :=
  writeRows (gatedRows gate text policy) sink

end BitmapFont
