import BitmapFont.Encode
import BitmapFont.FileStore
import BitmapFont.Glyph.Table
import BitmapFont.Text.Utf8

/-!
# Compiling a font

A compilation reads a source file, encodes it and writes the packed rows.  The
source is encoded as a whole before the output is touched, so a source with a
refused row leaves the output file as it was.
-/

namespace BitmapFont

structure Job where
  fontPath : String
  outputPath : String
  policy : WidthPolicy
  glyphHeight : UInt8
  deriving Repr, DecidableEq

inductive ReadError where
  | file (error : FileError)
  | notText
  deriving Repr, DecidableEq

def ReadError.message : ReadError → String
  | file error => error.message
  | notText => "stream did not contain valid UTF-8"

inductive CompileError where
  | reading (path : String) (cause : ReadError)
  | encoding (path : String) (cause : EncodeError)
  | writing (path : String) (cause : FileError)
  deriving Repr, DecidableEq

namespace CompileError

def context : CompileError → String
  | reading path _ => "error reading font source \"" ++ path ++ "\""
  | encoding path _ => "error encoding \"" ++ path ++ "\""
  | writing path _ => "error writing output \"" ++ path ++ "\""

def causes : CompileError → List String
  | reading _ cause => [cause.message]
  | encoding _ cause => [cause.message, cause.source]
  | writing _ cause => [cause.message]

end CompileError

def readSource {m : Type → Type} [Monad m] [FileAccess m] (path : String) :
    m (Except ReadError (List Char × Nat)) := do
  match ← FileAccess.read path with
  | .error error => pure (.error (.file error))
  | .ok bytes =>
      match Text.decodeUtf8? bytes with
      | none => pure (.error .notText)
      | some text => pure (.ok (text, bytes.length))

/-- What a successful compilation reports: the rows written and, if there are
any, the rows behind the last whole glyph. -/
def Job.summary (job : Job) (rows : Nat) (blob : List UInt8) : List Event :=
  let table : GlyphTable := ⟨blob, job.glyphHeight⟩
  let trailing := rows % max job.glyphHeight.toNat 1
  .outputWritten rows table.glyphCount table.height.toNat job.outputPath ::
    if trailing = 0 then [] else [.trailingRows trailing]

def compileGated {m : Type → Type} [Monad m] [FileAccess m] (gate : Gate) (job : Job) :
    m (Logged (Except CompileError (List UInt8))) := do
  match ← readSource job.fontPath with
  | .error cause => pure ⟨.error (.reading job.fontPath cause), []⟩
  | .ok (text, size) =>
      let opening := [Event.sourceRead size job.fontPath].filter gate
      let encoded := encodeIntoGated gate job.policy text .unbounded
      match encoded.value with
      | .error (cause, _) =>
          pure ⟨.error (.encoding job.fontPath cause), opening ++ encoded.events⟩
      | .ok written =>
          let blob := written.sink.written.toList
          match ← FileAccess.write job.outputPath blob with
          | .error cause =>
              pure ⟨.error (.writing job.outputPath cause), opening ++ encoded.events⟩
          | .ok () =>
              let closing := (job.summary written.rows blob).filter gate
              pure ⟨.ok blob, opening ++ encoded.events ++ closing⟩

def compile {m : Type → Type} [Monad m] [FileAccess m] (job : Job) :
    m (Logged (Except CompileError (List UInt8))) :=
  compileGated .wide job

end BitmapFont
