import BitmapFont.Compile
import BitmapFont.Proofs.FileSystem
import BitmapFont.Proofs.GatedLog
import BitmapFont.Proofs.SinkEncoding

/-!
# The stages of a compilation

A compilation reads, encodes and writes, in this order, and the first stage that
fails ends it.  No write is tried before the source is encoded as a whole, so a
compilation that fails leaves every file as it was, even where the output is the
source itself.  One that succeeds replaces the output and nothing else.

Over a sequence of compilations and other writes a file therefore holds what was
last put into it.  The run keeps account of the writes that succeeded, and a file
is what they make of its first contents.
-/

namespace BitmapFont

/-! ## The writes that are tried -/

/-- A store together with the writes tried on it, in order. -/
structure Recorded (σ : Type) where
  store : σ
  attempts : List (String × List UInt8)

instance {σ : Type} [FileAccess (StateM σ)] : FileAccess (StateM (Recorded σ)) where
  read path := do
    let recorded ← get
    let (result, store) := (FileAccess.read path : StateM σ _).run recorded.store
    set { recorded with store }
    pure result
  write path bytes := do
    let recorded ← get
    let (result, store) := (FileAccess.write path bytes : StateM σ _).run recorded.store
    set (Recorded.mk store (recorded.attempts ++ [(path, bytes)]))
    pure result

/-! ## One compilation -/

theorem run_bind_of_run
    {σ α β : Type} {first : StateM σ α} {state middle : σ} {value : α}
    (next : α → StateM σ β) (hfirst : first.run state = (value, middle)) :
    (first >>= next).run state = (next value).run middle := by
  rw [StateT.run_bind, hfirst]
  rfl

/-- The text in the bytes that were read. -/
def sourceText (source : Except FileError (List UInt8)) : Except ReadError (List Char) :=
  match source with
  | .error error => .error (.file error)
  | .ok bytes =>
      match Text.decodeUtf8? bytes with
      | none => .error .notText
      | some text => .ok text

/-- The number of the bytes that were read. -/
def sourceSize (source : Except FileError (List UInt8)) : Nat :=
  match source with
  | .error _ => 0
  | .ok bytes => bytes.length

section States

variable {τ : Type} [FileAccess (StateM τ)] {source : Except FileError (List UInt8)}

theorem run_readSource
    {path : String} {state : τ}
    (hread : (FileAccess.read path : StateM τ _).run state = (source, state)) :
    (readSource path : StateM τ _).run state =
      ((sourceText source).map fun text => (text, sourceSize source), state) := by
  unfold readSource
  rw [run_bind_of_run _ hread]
  cases source with
  | error error => rfl
  | ok bytes =>
      dsimp only [sourceText]
      cases Text.decodeUtf8? bytes <;> rfl

/-- What a compilation has to write, or why it gets no further. -/
def Job.encoding (job : Job) (source : Except FileError (List UInt8)) :
    Except CompileError (List UInt8) :=
  match sourceText source with
  | .error cause => .error (.reading job.fontPath cause)
  | .ok text =>
      (encodeWith job.policy text).value.mapError fun error =>
        .encoding job.fontPath (.row error)

/-- What a compilation has reported before it has something to write. -/
def Job.readEvents (job : Job) (source : Except FileError (List UInt8)) : List Event :=
  match sourceText source with
  | .error _ => []
  | .ok text =>
      .sourceRead (sourceSize source) job.fontPath ::
        (encodeInto job.policy text .unbounded).events

/-- Where reading leaves the state alone, a compilation touches it by one write at
most, and by none unless the source could be read and encoded.  Only a write that has
succeeded is reported. -/
theorem run_compile
    {job : Job} {state : τ}
    (hread : (FileAccess.read job.fontPath : StateM τ _).run state = (source, state)) :
    (compile job : StateM τ _).run state =
      match job.encoding source with
      | .error error => (⟨.error error, job.readEvents source⟩, state)
      | .ok blob =>
          match (FileAccess.write job.outputPath blob : StateM τ _).run state with
          | (.error cause, after) =>
              (⟨.error (.writing job.outputPath cause), job.readEvents source⟩, after)
          | (.ok (), after) =>
              (⟨.ok blob, job.readEvents source ++ job.summary blob.length blob⟩, after) := by
  unfold compile compileGated Job.encoding Job.readEvents
  rw [run_bind_of_run _ (run_readSource hread)]
  cases htext : sourceText source with
  | error cause => rfl
  | ok text =>
      have hinto := encodeInto_unbounded job.policy text
      cases hencode : (encodeWith job.policy text).value with
      | error error =>
          rw [hencode] at hinto
          simp only [Except.map, Except.mapError, encodeIntoGated_wide, hinto, hencode]
          rfl
      | ok blob =>
          rw [hencode] at hinto
          simp only [Except.map, Except.mapError, encodeIntoGated_wide, hinto, hencode,
            Gate.filter_wide]
          cases hwrite : (FileAccess.write job.outputPath blob : StateM τ _).run state with
          | mk result after =>
              rw [run_bind_of_run _ hwrite]
              cases result <;> rfl

end States

/-! ## One compilation on a file system -/

variable {σ Place : Type} [FileAccess (StateM σ)] [FileSystem σ Place]

namespace Recorded

theorem run_read (recorded : Recorded σ) (path : String) :
    (FileAccess.read path : StateM (Recorded σ) _).run recorded =
      (FileSystem.read recorded.store path, recorded) := by
  have hread := FileSystem.run_read recorded.store path
  simp only [FileAccess.read, StateT.run_bind, StateT.run_get, pure_bind, hread]
  rfl

theorem run_write (recorded : Recorded σ) (path : String) (bytes : List UInt8) :
    (FileAccess.write path bytes : StateM (Recorded σ) _).run recorded =
      match FileSystem.write recorded.store path bytes with
      | .ok after => (.ok (), ⟨after, recorded.attempts ++ [(path, bytes)]⟩)
      | .error error =>
          (.error error, ⟨recorded.store, recorded.attempts ++ [(path, bytes)]⟩) := by
  have hwrite := FileSystem.run_write recorded.store path bytes
  simp only [FileAccess.write, StateT.run_bind, StateT.run_get, pure_bind, hwrite]
  cases FileSystem.write recorded.store path bytes <;> rfl

end Recorded

namespace Job

def source (job : Job) (store : σ) : Except ReadError (List Char) :=
  sourceText (FileSystem.read store job.fontPath)

def result (job : Job) (store : σ) : Except CompileError (List UInt8) :=
  ((compile job : StateM σ _).run store).1.value

def after (job : Job) (store : σ) : σ :=
  ((compile job : StateM σ _).run store).2

/-- The writes that a compilation tries. -/
def attempts (job : Job) (store : σ) : List (String × List UInt8) :=
  ((compile job : StateM (Recorded σ) _).run ⟨store, []⟩).2.attempts

def encoded (job : Job) (store : σ) : Except CompileError (List UInt8) :=
  job.encoding (FileSystem.read store job.fontPath)

theorem encoded_of_unread
    {job : Job} {store : σ} {cause : ReadError} (hsource : job.source store = .error cause) :
    job.encoded store = .error (.reading job.fontPath cause) := by
  unfold source at hsource
  simp only [encoded, encoding, hsource]

theorem encoded_of_source
    {job : Job} {store : σ} {text : List Char} (hsource : job.source store = .ok text) :
    job.encoded store =
      (encodeWith job.policy text).value.mapError fun error =>
        .encoding job.fontPath (.row error) := by
  unfold source at hsource
  simp only [encoded, encoding, hsource]

theorem encoded_eq_ok_iff {job : Job} {store : σ} {blob : List UInt8} :
    job.encoded store = .ok blob ↔
      ∃ text, job.source store = .ok text ∧ (encodeWith job.policy text).value = .ok blob := by
  cases hsource : job.source store with
  | error cause => simp [encoded_of_unread hsource]
  | ok text =>
      rw [encoded_of_source hsource]
      cases hencode : (encodeWith job.policy text).value <;> simp [Except.mapError, hencode]

/-- The stages of a compilation, of which the first that fails ends it. -/
theorem result_after_eq (job : Job) (store : σ) :
    (job.result store, job.after store) =
      match job.encoded store with
      | .error error => (.error error, store)
      | .ok blob =>
          match FileSystem.write store job.outputPath blob with
          | .error cause => (.error (.writing job.outputPath cause), store)
          | .ok after => (.ok blob, after) := by
  unfold result after encoded
  rw [run_compile (FileSystem.run_read store job.fontPath)]
  cases job.encoding (FileSystem.read store job.fontPath) with
  | error error => rfl
  | ok blob =>
      dsimp only
      rw [FileSystem.run_write]
      cases FileSystem.write store job.outputPath blob <;> rfl

theorem result_after_of_encoded_error
    {job : Job} {store : σ} {error : CompileError} (hencoded : job.encoded store = .error error) :
    job.result store = .error error ∧ job.after store = store := by
  have hstages := job.result_after_eq store
  rw [hencoded] at hstages
  exact Prod.mk.inj hstages

theorem result_after_of_write_error
    {job : Job} {store : σ} {blob : List UInt8} {cause : FileError}
    (hencoded : job.encoded store = .ok blob)
    (hwrite : FileSystem.write store job.outputPath blob = .error cause) :
    job.result store = .error (.writing job.outputPath cause) ∧ job.after store = store := by
  have hstages := job.result_after_eq store
  simp only [hencoded, hwrite] at hstages
  exact Prod.mk.inj hstages

theorem result_after_of_write_ok
    {job : Job} {store after : σ} {blob : List UInt8}
    (hencoded : job.encoded store = .ok blob)
    (hwrite : FileSystem.write store job.outputPath blob = .ok after) :
    job.result store = .ok blob ∧ job.after store = after := by
  have hstages := job.result_after_eq store
  simp only [hencoded, hwrite] at hstages
  exact Prod.mk.inj hstages

/-- A recorded compilation does what an unrecorded one does, and what it has
recorded is the one write of a source that could be encoded. -/
theorem run_recorded (job : Job) (store : σ) :
    ((compile job : StateM (Recorded σ) _).run ⟨store, []⟩).1.value = job.result store ∧
      ((compile job : StateM (Recorded σ) _).run ⟨store, []⟩).2.store = job.after store ∧
      job.attempts store =
        match job.encoded store with
        | .error _ => []
        | .ok blob => [(job.outputPath, blob)] := by
  have hrecorded := run_compile (Recorded.run_read ⟨store, []⟩ job.fontPath)
  change _ = match job.encoded store with | .error _ => _ | .ok _ => _ at hrecorded
  unfold attempts
  cases hencoded : job.encoded store with
  | error error =>
      obtain ⟨hresult, hafter⟩ := result_after_of_encoded_error hencoded
      simp only [hencoded] at hrecorded
      simp [hresult, hafter, hrecorded]
  | ok blob =>
      cases hwrite : FileSystem.write store job.outputPath blob with
      | error cause =>
          obtain ⟨hresult, hafter⟩ := result_after_of_write_error hencoded hwrite
          simp only [hencoded, Recorded.run_write, hwrite] at hrecorded
          simp [hresult, hafter, hrecorded]
      | ok after =>
          obtain ⟨hresult, hafter⟩ := result_after_of_write_ok hencoded hwrite
          simp only [hencoded, Recorded.run_write, hwrite] at hrecorded
          simp [hresult, hafter, hrecorded]

theorem attempts_of_encoded_error
    {job : Job} {store : σ} {error : CompileError} (hencoded : job.encoded store = .error error) :
    job.attempts store = [] := by
  rw [(job.run_recorded store).2.2, hencoded]

/-- What a compilation may do to a file system.  It succeeds exactly when all its
stages do, and then the output holds the bytes that the source was encoded to and
every other file what it held.  Otherwise it reports the stage that failed and
nothing has changed, and before the last stage no write has been tried. -/
structure AllOrNothing (job : Job) (store : σ) : Prop where
  ok_iff : ∀ blob, job.result store = .ok blob ↔
    ∃ text after,
      job.source store = .ok text ∧
      (encodeWith job.policy text).value = .ok blob ∧
      FileSystem.write store job.outputPath blob = .ok after
  replaced : ∀ blob, job.result store = .ok blob →
    ∃ place,
      FileSystem.named? store job.outputPath = some place ∧
      FileSystem.contents? (job.after store) place = some blob ∧
      ∀ other, other ≠ place →
        FileSystem.contents? (job.after store) other = FileSystem.contents? store other
  readBack : ∀ blob bytes, job.result store = .ok blob →
    FileSystem.read (job.after store) job.outputPath = .ok bytes → bytes = blob
  unread : ∀ cause, job.source store = .error cause →
    job.result store = .error (.reading job.fontPath cause) ∧
      job.after store = store ∧ job.attempts store = []
  refused : ∀ text error, job.source store = .ok text →
    (encodeWith job.policy text).value = .error error →
    job.result store = .error (.encoding job.fontPath (.row error)) ∧
      job.after store = store ∧ job.attempts store = []
  unwritten : ∀ text blob cause, job.source store = .ok text →
    (encodeWith job.policy text).value = .ok blob →
    FileSystem.write store job.outputPath blob = .error cause →
    job.result store = .error (.writing job.outputPath cause) ∧ job.after store = store
  recorded :
    ((compile job : StateM (Recorded σ) _).run ⟨store, []⟩).1.value = job.result store ∧
      ((compile job : StateM (Recorded σ) _).run ⟨store, []⟩).2.store = job.after store

/-- A compilation that succeeds is one successful write of the encoded source. -/
theorem write_of_result
    {job : Job} {store : σ} {blob : List UInt8} (hresult : job.result store = .ok blob) :
    job.encoded store = .ok blob ∧
      FileSystem.write store job.outputPath blob = .ok (job.after store) := by
  cases hencoded : job.encoded store with
  | error error =>
      rw [(result_after_of_encoded_error hencoded).1] at hresult
      contradiction
  | ok bytes =>
      cases hwrite : FileSystem.write store job.outputPath bytes with
      | error cause =>
          rw [(result_after_of_write_error hencoded hwrite).1] at hresult
          contradiction
      | ok after =>
          obtain ⟨hbytes, hafter⟩ := result_after_of_write_ok hencoded hwrite
          obtain rfl := Except.ok.inj (hbytes.symm.trans hresult)
          exact ⟨rfl, hafter ▸ hwrite⟩

theorem after_of_result_error
    {σ Place : Type} [FileAccess (StateM σ)] [FileSystem σ Place]
    {job : Job} {store : σ} {error : CompileError} (hresult : job.result store = .error error) :
    job.after store = store := by
  cases hencoded : job.encoded store with
  | error error => exact (result_after_of_encoded_error hencoded).2
  | ok blob =>
      cases hwrite : FileSystem.write store job.outputPath blob with
      | error cause => exact (result_after_of_write_error hencoded hwrite).2
      | ok after =>
          rw [(result_after_of_write_ok hencoded hwrite).1] at hresult
          contradiction

theorem allOrNothing (job : Job) (store : σ) : job.AllOrNothing store where
  ok_iff blob := by
    constructor
    · intro hresult
      obtain ⟨hencoded, hwrite⟩ := write_of_result hresult
      obtain ⟨text, hsource, hencode⟩ := encoded_eq_ok_iff.mp hencoded
      exact ⟨text, _, hsource, hencode, hwrite⟩
    · rintro ⟨text, after, hsource, hencode, hwrite⟩
      have hencoded := encoded_eq_ok_iff.mpr ⟨text, hsource, hencode⟩
      exact (result_after_of_write_ok hencoded hwrite).1
  replaced blob hresult :=
    FileSystem.contents?_of_write (write_of_result hresult).2
  readBack blob bytes hresult hread := by
    have hwrite := (write_of_result hresult).2
    obtain ⟨place, hnamed, hblob, -⟩ := FileSystem.contents?_of_write hwrite
    obtain ⟨found, hfound, hbytes⟩ := FileSystem.contents?_of_read hread
    rw [FileSystem.named?_of_write hwrite, hnamed] at hfound
    obtain rfl := Option.some.inj hfound
    exact Option.some.inj (hbytes.symm.trans hblob)
  unread cause hsource := by
    have hencoded := encoded_of_unread hsource
    obtain ⟨hresult, hafter⟩ := result_after_of_encoded_error hencoded
    exact ⟨hresult, hafter, attempts_of_encoded_error hencoded⟩
  refused text error hsource hencode := by
    have hencoded : job.encoded store = .error (.encoding job.fontPath (.row error)) := by
      rw [encoded_of_source hsource, hencode]
      rfl
    obtain ⟨hresult, hafter⟩ := result_after_of_encoded_error hencoded
    exact ⟨hresult, hafter, attempts_of_encoded_error hencoded⟩
  unwritten text blob cause hsource hencode hwrite := by
    have hencoded := encoded_eq_ok_iff.mpr ⟨text, hsource, hencode⟩
    exact result_after_of_write_error hencoded hwrite
  recorded := ⟨(job.run_recorded store).1, (job.run_recorded store).2.1⟩

end Job

/-! ## Sequences of writes -/

inductive Action where
  | compile (job : Job)
  | write (path : String) (bytes : List UInt8)
  deriving Repr, DecidableEq

/-- One action: what it has written where, if it succeeded, and the store after it. -/
def Action.step (action : Action) (store : σ) : Option (String × List UInt8) × σ :=
  match action with
  | .compile job => ((job.result store).toOption.map (job.outputPath, ·), job.after store)
  | .write path bytes =>
      match FileSystem.write store path bytes with
      | .ok after => (some (path, bytes), after)
      | .error _ => (none, store)

def storeAfter (actions : List Action) (store : σ) : σ :=
  actions.foldl (fun store action => (action.step store).2) store

/-- The writes of a sequence of actions that have succeeded, in order. -/
def writesOf : List Action → σ → List (String × List UInt8)
  | [], _ => []
  | action :: rest, store => (action.step store).1.toList ++ writesOf rest (action.step store).2

theorem Action.write_of_step
    {action : Action} {store : σ} {path : String} {bytes : List UInt8}
    (hstep : (action.step store).1 = some (path, bytes)) :
    FileSystem.write store path bytes = .ok (action.step store).2 := by
  cases action with
  | compile job =>
      simp only [step] at hstep ⊢
      cases hresult : job.result store with
      | error error => simp [hresult, Except.toOption] at hstep
      | ok blob =>
          have hwrite := (Job.write_of_result hresult).2
          simp only [hresult, Except.toOption, Option.map_some, Option.some.injEq,
            Prod.mk.injEq] at hstep
          obtain ⟨rfl, rfl⟩ := hstep
          exact hwrite
  | write target content =>
      simp only [step] at hstep ⊢
      cases hwrite : FileSystem.write store target content with
      | error error => simp [hwrite] at hstep
      | ok after =>
          simp only [hwrite, Option.some.injEq, Prod.mk.injEq] at hstep ⊢
          obtain ⟨rfl, rfl⟩ := hstep
          exact hwrite

theorem Action.step_of_none
    {action : Action} {store : σ} (hstep : (action.step store).1 = none) :
    (action.step store).2 = store := by
  cases action with
  | compile job =>
      simp only [step] at hstep ⊢
      cases hresult : job.result store with
      | error error => exact Job.after_of_result_error hresult
      | ok blob => simp [hresult, Except.toOption] at hstep
  | write path bytes =>
      simp only [step] at hstep ⊢
      cases hwrite : FileSystem.write store path bytes with
      | error error => rfl
      | ok after => simp [hwrite] at hstep

/-- An action changes no file but the one it is said to have written, and every
path keeps its file. -/
theorem Action.step_contents?
    (action : Action) (store : σ) :
    FileSystem.named? (action.step store).2 = FileSystem.named? store ∧
      ∀ place,
        (∀ path bytes, (action.step store).1 = some (path, bytes) →
          FileSystem.named? store path ≠ some place) →
        FileSystem.contents? (action.step store).2 place = FileSystem.contents? store place := by
  cases hstep : (action.step store).1 with
  | none =>
      rw [Action.step_of_none hstep]
      exact ⟨rfl, fun _ _ => rfl⟩
  | some entry =>
      obtain ⟨path, bytes⟩ := entry
      have hwrite := Action.write_of_step hstep
      obtain ⟨written, hnamed, -, hother⟩ := FileSystem.contents?_of_write hwrite
      refine ⟨FileSystem.named?_of_write hwrite, fun place hplace => hother place ?_⟩
      rintro rfl
      exact hplace path bytes rfl hnamed

/-- A file that no successful write names holds what it held. -/
theorem contents?_storeAfter
    {actions : List Action} {store : σ} {place : Place}
    (hwrites : ∀ path bytes, (path, bytes) ∈ writesOf actions store →
      FileSystem.named? store path ≠ some place) :
    FileSystem.contents? (storeAfter actions store) place =
      FileSystem.contents? store place := by
  induction actions generalizing store with
  | nil => rfl
  | cons action rest ih =>
      obtain ⟨hnamed, hcontents⟩ := action.step_contents? store
      have hrest :
          FileSystem.contents? (storeAfter rest (action.step store).2) place =
            FileSystem.contents? (action.step store).2 place := by
        apply ih
        intro path bytes hmem
        rw [hnamed]
        exact hwrites path bytes (List.mem_append_right _ hmem)
      have hfirst :
          FileSystem.contents? (action.step store).2 place =
            FileSystem.contents? store place := by
        apply hcontents
        intro path bytes hstep
        apply hwrites path bytes
        simp [writesOf, hstep]
      exact hrest.trans hfirst

/-- A compilation does all of its work or none of it.  So over any sequence of
compilations and other writes, a file holds the bytes of the last successful
compilation to it until something else is written to it. -/
theorem compile_all_or_nothing :
    (∀ (job : Job) (store : σ), job.AllOrNothing store) ∧
    ∀ (before later : List Action) (job : Job) (store : σ) (blob : List UInt8) (place : Place),
      job.result (storeAfter before store) = .ok blob →
      FileSystem.named? (storeAfter before store) job.outputPath = some place →
      (∀ path bytes,
        (path, bytes) ∈ writesOf later (job.after (storeAfter before store)) →
        FileSystem.named? (storeAfter before store) path ≠ some place) →
      FileSystem.contents? (storeAfter (before ++ .compile job :: later) store) place =
        some blob := by
  refine ⟨fun job store => job.allOrNothing store, ?_⟩
  intro before later job store blob place hresult hnamed hlater
  have hwrite := (Job.write_of_result hresult).2
  obtain ⟨written, hwritten, hblob, -⟩ := FileSystem.contents?_of_write hwrite
  obtain rfl : place = written := Option.some.inj (hnamed.symm.trans hwritten)
  have hsplit :
      storeAfter (before ++ .compile job :: later) store =
        storeAfter later (job.after (storeAfter before store)) :=
    List.foldl_append
  rw [hsplit, contents?_storeAfter, hblob]
  rw [FileSystem.named?_of_write hwrite]
  exact hlater

/-- A font that is compiled onto its own source, with another file written later. -/
theorem compile_all_or_nothing_onto_source :
    let store := FileStore.empty.install ["font.txt"] (.file [64, 10])
    let job : Job := ⟨"font.txt", "./font.txt", .lenient, 16⟩
    job.result store = .ok [1] ∧
      FileSystem.contents?
          (storeAfter ([] ++ .compile job :: [.write "other.txt" [7]]) store) ["font.txt"] =
        some [1] := by
  have hread : FileStore.read (.install .empty ["font.txt"] (.file [64, 10])) "font.txt" =
      .ok [64, 10] := rfl
  have hwrite : FileStore.write (.install .empty ["font.txt"] (.file [64, 10])) "./font.txt" [1] =
      .ok (.install (.install .empty ["font.txt"] (.file [64, 10])) ["font.txt"] (.file [1])) :=
    rfl
  have hfont : FileStore.named? (.install .empty ["font.txt"] (.file [64, 10])) "./font.txt" =
      some ["font.txt"] := rfl
  have hother : FileStore.named? (.install .empty ["font.txt"] (.file [64, 10])) "other.txt" =
      some ["other.txt"] := rfl
  have htext : Text.decodeUtf8? [64, 10] = some ['@', '\n'] := rfl
  have hencode : (encodeWith .lenient ['@', '\n']).value = .ok [1] := by
    rw [encodeWith_eq_ok_iff, RowCursor.items_eq_sourceTokens]
    rfl
  intro store job
  have hsource : job.source store = .ok ['@', '\n'] := by
    change sourceText (FileStore.read store "font.txt") = _
    rw [hread]
    simp only [sourceText, htext]
  obtain ⟨hall, hlast⟩ := compile_all_or_nothing (σ := FileStore)
  have hresult : job.result store = .ok [1] :=
    ((hall job store).ok_iff [1]).mpr ⟨_, _, hsource, hencode, hwrite⟩
  refine ⟨hresult, hlast [] _ job store [1] ["font.txt"] hresult hfont ?_⟩
  intro path bytes hmem
  have hpath : path = "other.txt" := by
    simp only [writesOf, Action.step] at hmem
    split at hmem <;> simp_all
  subst hpath
  change FileStore.named? store "other.txt" ≠ _
  rw [hother]
  decide

end BitmapFont
