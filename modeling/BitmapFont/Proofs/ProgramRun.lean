import BitmapFont.Proofs.CompileStages
import BitmapFont.Proofs.GatedLog
import BitmapFont.Proofs.PreviewSource
import BitmapFont.Run

/-!
# Runs of the program

A run ends in one of four ways.  A command line that cannot be read and one that asks
for help end it before any file is touched; otherwise the run is the compilation that
the command line describes, and its end is that of the compilation.  Only a compilation
that has succeeded leads to anything on standard output besides the help text, and then
the glyphs shown are those of the bytes that the output file holds from then on.
-/

namespace BitmapFont

open CommandLine (Config Stop UsageError)

variable {σ Place : Type} [FileAccess (StateM σ)] [FileSystem σ Place]

def Job.events (job : Job) (store : σ) : List Event :=
  ((compile job : StateM σ _).run store).1.events

theorem run_compileGated (gate : Gate) (job : Job) (store : σ) :
    (compileGated gate job : StateM σ _).run store =
      (⟨job.result store, (job.events store).filter gate⟩, job.after store) := by
  rw [compileGated_eq]
  rfl

theorem previewOutput_gated (gate : Gate) (config : Config) (blob : List UInt8) :
    previewOutput gate config blob = (previewOutput .wide config blob).gated gate := by
  unfold previewOutput
  cases config.preview with
  | none => rfl
  | some chars =>
      simp only [previewGated_eq gate, previewGated_wide, Logged.gated]
      cases (preview ⟨blob, config.glyphHeight⟩ chars.toList .unbounded).value <;> rfl

section Configured

variable {environment : Environment} {config : Config} {store : σ}

theorem runConfig_of_error
    {error : CompileError} (hresult : config.toJob.result store = .error error) :
    (runConfig environment config : StateM σ Outcome).run store =
      ({ exitCode := 1
         faults := environment.filterText.faults
         events := (config.toJob.events store).filter (logFilter config environment).shows
         report := error.report }, config.toJob.after store) := by
  unfold runConfig
  dsimp only
  rw [run_bind_of_run _ (run_compileGated _ config.toJob store)]
  simp only [hresult]
  rfl

theorem runConfig_of_ok
    {blob : List UInt8} (hresult : config.toJob.result store = .ok blob) :
    (runConfig environment config : StateM σ Outcome).run store =
      ({ exitCode := 0
         output := (previewOutput .wide config blob).value
         faults := environment.filterText.faults
         events := (config.toJob.events store ++ (previewOutput .wide config blob).events).filter
           (logFilter config environment).shows }, config.toJob.after store) := by
  unfold runConfig
  dsimp only
  rw [run_bind_of_run _ (run_compileGated _ config.toJob store)]
  simp only [hresult, previewOutput_gated (logFilter config environment).shows,
    List.filter_append]
  rfl

end Configured

/-! ## A whole run -/

def Environment.outcome (environment : Environment) (words : List String) (store : σ) : Outcome :=
  ((run environment words : StateM σ Outcome).run store).1

def Environment.after (environment : Environment) (words : List String) (store : σ) : σ :=
  ((run environment words : StateM σ Outcome).run store).2

section Stages

variable {environment : Environment} {words : List String} {store : σ}

theorem run_of_usage
    {error : UsageError} (store : σ)
    (hparse : CommandLine.parse environment.outputPath words = .error (.usage error)) :
    environment.outcome words store = { exitCode := 2, report := [error.message .stream] } ∧
      environment.after words store = store := by
  unfold Environment.outcome Environment.after run
  rw [hparse]
  exact ⟨rfl, rfl⟩

theorem run_of_help
    (store : σ)
    (hparse : CommandLine.parse environment.outputPath words = .error .help) :
    environment.outcome words store =
        { exitCode := 0
          output := Text.encodeUtf8
            (CommandLine.helpText .stream environment.outputPath).toList } ∧
      environment.after words store = store := by
  unfold Environment.outcome Environment.after run
  rw [hparse]
  exact ⟨rfl, rfl⟩

theorem run_of_config
    {config : Config} (hparse : CommandLine.parse environment.outputPath words = .ok config) :
    (environment.outcome words store, environment.after words store) =
      (runConfig environment config : StateM σ Outcome).run store := by
  unfold Environment.outcome Environment.after run
  rw [hparse]
  rfl

theorem run_of_error
    {config : Config} {error : CompileError}
    (hparse : CommandLine.parse environment.outputPath words = .ok config)
    (hresult : config.toJob.result store = .error error) :
    environment.outcome words store =
        { exitCode := 1
          faults := environment.filterText.faults
          events := (config.toJob.events store).filter (logFilter config environment).shows
          report := error.report } ∧
      environment.after words store = config.toJob.after store :=
  Prod.mk.inj ((run_of_config hparse).trans (runConfig_of_error hresult))

theorem run_of_ok
    {config : Config} {blob : List UInt8}
    (hparse : CommandLine.parse environment.outputPath words = .ok config)
    (hresult : config.toJob.result store = .ok blob) :
    environment.outcome words store =
        { exitCode := 0
          output := (previewOutput .wide config blob).value
          faults := environment.filterText.faults
          events := (config.toJob.events store ++ (previewOutput .wide config blob).events).filter
            (logFilter config environment).shows } ∧
      environment.after words store = config.toJob.after store :=
  Prod.mk.inj ((run_of_config hparse).trans (runConfig_of_ok hresult))

end Stages

theorem previewOutput_of_chars
    {config : Config} {chars : String} (blob : List UInt8) (hchars : config.preview = some chars) :
    (previewOutput .wide config blob).value =
      Text.encodeUtf8 (previewText ⟨blob, config.glyphHeight⟩ chars.toList) := by
  simp only [previewOutput, hchars, previewGated_wide, preview_unbounded]

theorem previewOutput_of_none
    {config : Config} (blob : List UInt8) (hchars : config.preview = none) :
    (previewOutput .wide config blob).value = [] := by
  simp only [previewOutput, hchars]
  rfl

/-- What a run does to the standard output, the exit code and the files. -/
structure RunInStages (environment : Environment) (words : List String) (store : σ) : Prop where
  unusable : ∀ error : UsageError,
    CommandLine.parse environment.outputPath words = .error (.usage error) →
    (environment.outcome words store).exitCode = 2 ∧
      (environment.outcome words store).output = [] ∧
      environment.after words store = store
  helped :
    CommandLine.parse environment.outputPath words = .error .help →
    (environment.outcome words store).exitCode = 0 ∧
      (environment.outcome words store).output =
        Text.encodeUtf8 (CommandLine.helpText .stream environment.outputPath).toList ∧
      environment.after words store = store
  failed : ∀ config error,
    CommandLine.parse environment.outputPath words = .ok config →
    config.toJob.result store = .error error →
    (environment.outcome words store).exitCode = 1 ∧
      (environment.outcome words store).output = [] ∧
      environment.after words store = store
  compiled : ∀ config blob,
    CommandLine.parse environment.outputPath words = .ok config →
    config.toJob.result store = .ok blob →
    (environment.outcome words store).exitCode = 0 ∧
      ∃ place,
        FileSystem.named? store config.outputPath = some place ∧
        FileSystem.contents? (environment.after words store) place = some blob ∧
        ∀ other, other ≠ place →
          FileSystem.contents? (environment.after words store) other =
            FileSystem.contents? store other
  previewed : ∀ config blob chars,
    CommandLine.parse environment.outputPath words = .ok config →
    config.toJob.result store = .ok blob →
    config.preview = some chars →
    ∃ sink,
      (preview ⟨blob, config.glyphHeight⟩ chars.toList .unbounded).value = .ok sink ∧
      (environment.outcome words store).output = sink.written.toList
  silent : ∀ config,
    CommandLine.parse environment.outputPath words = .ok config →
    config.preview = none →
    (environment.outcome words store).output = []
  /-- The glyphs shown are those of the bytes that the output holds afterwards. -/
  shown : ∀ config chars bytes,
    CommandLine.parse environment.outputPath words = .ok config →
    config.preview = some chars →
    (environment.outcome words store).exitCode = 0 →
    FileSystem.read (environment.after words store) config.outputPath = .ok bytes →
    (environment.outcome words store).output =
      Text.encodeUtf8 (previewText ⟨bytes, config.glyphHeight⟩ chars.toList)

/-- A run reads its command line, then compiles, then shows what it has compiled; the
first of these that fails ends it, and only the second touches a file. -/
theorem run_in_stages (environment : Environment) (words : List String) (store : σ) :
    RunInStages environment words store where
  unusable error hparse := by
    obtain ⟨houtcome, hafter⟩ := run_of_usage store hparse
    exact ⟨by rw [houtcome], by rw [houtcome], hafter⟩
  helped hparse := by
    obtain ⟨houtcome, hafter⟩ := run_of_help store hparse
    exact ⟨by rw [houtcome], by rw [houtcome], hafter⟩
  failed config error hparse hresult := by
    obtain ⟨houtcome, hafter⟩ := run_of_error hparse hresult
    exact ⟨by rw [houtcome], by rw [houtcome],
      hafter.trans (Job.after_of_result_error hresult)⟩
  compiled config blob hparse hresult := by
    obtain ⟨houtcome, hafter⟩ := run_of_ok hparse hresult
    rw [hafter]
    exact ⟨by rw [houtcome], (config.toJob.allOrNothing store).replaced blob hresult⟩
  previewed config blob chars hparse hresult hchars := by
    obtain ⟨houtcome, -⟩ := run_of_ok hparse hresult
    refine ⟨_, congrArg Logged.value (preview_unbounded _ _), ?_⟩
    rw [houtcome, previewOutput_of_chars blob hchars]
  silent config hparse hchars := by
    cases hresult : config.toJob.result store with
    | error error =>
        obtain ⟨houtcome, -⟩ := run_of_error hparse hresult
        rw [houtcome]
    | ok blob =>
        obtain ⟨houtcome, -⟩ := run_of_ok hparse hresult
        rw [houtcome, previewOutput_of_none blob hchars]
  shown config chars bytes hparse hchars hexit hread := by
    cases hresult : config.toJob.result store with
    | error error =>
        obtain ⟨houtcome, -⟩ := run_of_error hparse hresult
        simp [houtcome] at hexit
    | ok blob =>
        obtain ⟨houtcome, hafter⟩ := run_of_ok hparse hresult
        rw [hafter] at hread
        obtain rfl := (config.toJob.allOrNothing store).readBack blob bytes hresult hread
        rw [houtcome, previewOutput_of_chars bytes hchars]

end BitmapFont
