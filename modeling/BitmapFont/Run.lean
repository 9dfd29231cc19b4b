import BitmapFont.CommandLine.Help
import BitmapFont.CommandLine.Parse
import BitmapFont.Log.Filter
import BitmapFont.Preview

/-!
# A run of the compiler

A run reads its command line, compiles the font it names and, if that succeeds
and a preview was asked for, shows glyphs of the bytes just written.  It ends
with an exit code, the bytes for standard output, warnings about the text of
the filter, the events shown and the lines that report a failure.  The filter is the
gate of the log, so an event that it does not show is never taken.
-/

namespace BitmapFont

open CommandLine (Config Stop)

structure Environment where
  outputPath : Option String
  logFilter : Option String
  deriving Repr, DecidableEq

def logVariable : String := "RUST_LOG"

structure Outcome where
  exitCode : UInt32
  output : List UInt8 := []
  /-- The parts of the filter's text that were passed over. -/
  faults : List FilterFault := []
  events : List Event := []
  report : List String := []
  deriving Repr, DecidableEq

def Outcome.errorLines (outcome : Outcome) : List String :=
  Text.linesOfPrinted (outcome.faults.map FilterFault.warning) ++
    Text.linesOfPrinted (outcome.events.map Event.logText) ++ outcome.report

/-- The lines that report a failed compilation: its context and its causes,
numbered if there are several. -/
def CompileError.report (error : CompileError) : List String :=
  let causes :=
    match error.causes with
    | [cause] => ["    " ++ cause]
    | causes => causes.zipIdx.map fun (cause, index) => s!"    {index}: " ++ cause
  Text.linesOfPrinted (["Error: " ++ error.context, "", "Caused by:"] ++ causes)

def Environment.filterText (environment : Environment) : FilterText :=
  match environment.logFilter with
  | none => {}
  | some text => FilterText.ofText text

def logFilter (config : Config) (environment : Environment) : Filter :=
  (Filter.ofVerbosity config.verbosity).override environment.filterText

def previewOutput (gate : Gate) (config : Config) (blob : List UInt8) : Logged (List UInt8) :=
  match config.preview with
  | none => pure []
  | some chars =>
      let shown := previewGated gate ⟨blob, config.glyphHeight⟩ chars.toList .unbounded
      match shown.value with
      | .ok sink | .error sink => ⟨sink.written.toList, shown.events⟩

def runConfig {m : Type → Type} [Monad m] [FileAccess m]
    (environment : Environment) (config : Config) : m Outcome := do
  let faults := environment.filterText.faults
  let gate := (logFilter config environment).shows
  let compiled ← compileGated gate config.toJob
  match compiled.value with
  | .error error =>
      pure {
        exitCode := 1
        faults
        events := compiled.events
        report := error.report }
  | .ok blob =>
      let shown := previewOutput gate config blob
      pure {
        exitCode := 0
        output := shown.value
        faults
        events := compiled.events ++ shown.events }

def run {m : Type → Type} [Monad m] [FileAccess m]
    (environment : Environment) (words : List String) : m Outcome :=
  match CommandLine.parse environment.outputPath words with
  | .error .help =>
      let text := CommandLine.helpText .stream environment.outputPath
      pure { exitCode := 0, output := Text.encodeUtf8 text.toList }
  | .error (.usage error) => pure { exitCode := 2, report := [error.message .stream] }
  | .ok config => runConfig environment config

end BitmapFont
