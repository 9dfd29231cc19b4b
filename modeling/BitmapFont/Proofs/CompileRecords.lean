import BitmapFont.Proofs.GlyphPartition
import BitmapFont.Proofs.LineRecords
import BitmapFont.Proofs.ProgramRun

/-!
# Records of a compilation

What a compilation reports follows its stages: the size of the source once it is read,
the records of encoding it, and a summary once the output is written.  The summary takes
the number of rows from the encoding, the number of glyphs from the blob and the number
of trailing rows from a remainder of its own, and the three agree: a row is a byte of the
blob, and the blob is as many whole glyphs and the trailing rows.

The blob is collected in a sink that is never full, so the records are those of encoding
the source as a whole, up to the row that is refused if there is one.
-/

namespace BitmapFont

open Text

/-! ## Feedings that fail together -/

namespace Cursor

variable {ι α β γ ε δ : Type} {item? : α → Option ι} {record? : α → Option Event}

/-- Feedings that refuse the same items have reported the same. -/
theorem feedEntries_events_congr
    {combine : β → ι → Except ε β} {other : γ → ι → Except δ γ} (Related : β → γ → Prop)
    (hstep : ∀ result state item, Related result state →
      (∃ next after, combine result item = .ok next ∧ other state item = .ok after ∧
        Related next after) ∨
      ∃ refusal failure, combine result item = .error refusal ∧
        other state item = .error failure)
    {result : β} {state : γ} (entries : List α) (hrelated : Related result state) :
    (feedEntries item? record? combine result entries).events =
      (feedEntries item? record? other state entries).events := by
  induction entries generalizing result state with
  | nil => rfl
  | cons entry entries ih =>
      rw [feedEntries, feedEntries]
      cases hentry : item? entry with
      | none =>
          simp only [Option.elim_none]
          rw [ih hrelated]
      | some item =>
          simp only [Option.elim_some]
          rcases hstep result state item hrelated with
            ⟨next, after, hnext, hafter, hlater⟩ | ⟨refusal, failure, hrefusal, hfailure⟩
          · simp only [hnext, hafter]
            rw [ih hlater]
          · simp only [hrefusal, hfailure]

/-- A feeding that comes to its end has reported every entry. -/
theorem feedEntries_events_of_ok
    {combine : β → ι → Except ε β} {result reached : β} {entries : List α}
    (hvalue : (feedEntries item? record? combine result entries).value = .ok reached) :
    (feedEntries item? record? combine result entries).events =
      entries.filterMap record? := by
  fun_induction feedEntries item? record? combine result entries with
  | case1 result => rfl
  | case2 result entry rest next hcombine later ih =>
      rw [ih hvalue, ← List.filterMap_append, List.singleton_append]
  | case3 result entry rest refusal hcombine => contradiction

end Cursor

/-! ## The records of an encoding -/

/-- A sink that is never full refuses no row that is not refused anyway. -/
theorem Written.push_unbounded (done : Written) (byte : UInt8) (hsink : done.sink.capacity = none) :
    ∃ after, done.push (.ok byte) = .ok after ∧ after.sink.capacity = none := by
  obtain ⟨rows, ⟨capacity, written⟩⟩ := done
  obtain rfl : capacity = none := hsink
  exact ⟨_, rfl, rfl⟩

theorem encodeInto_events_unbounded (policy : WidthPolicy) (text : List Char) :
    (encodeInto policy text .unbounded).events = (encodeWith policy text).events := by
  rw [encodeWith_eq_feedEntries, encodeInto_eq_feedEntries]
  apply Cursor.feedEntries_events_congr fun done _ => done.sink.capacity = none
  · intro done blob item hsink
    cases item with
    | error error => exact .inr ⟨_, error, rfl, rfl⟩
    | ok byte =>
        obtain ⟨after, hafter, hopen⟩ := done.push_unbounded byte hsink
        exact .inl ⟨after, blob.push byte, hafter, rfl, hopen⟩
  · rfl

/-- A source that is encoded has left a record of each of its rows. -/
theorem encodeWith_events_of_ok
    {policy : WidthPolicy} {text : List Char} {blob : List UInt8}
    (hvalue : (encodeWith policy text).value = .ok blob) :
    (encodeWith policy text).events = lineRecords policy text := by
  rw [encodeWith_eq_feedEntries] at hvalue ⊢
  obtain ⟨reached, hreached, -⟩ := ok_of_map_eq_ok hvalue
  exact Cursor.feedEntries_events_of_ok hreached

theorem packedBytes_of_encodeWith
    {policy : WidthPolicy} {text : List Char} {blob : List UInt8}
    (hvalue : (encodeWith policy text).value = .ok blob) :
    (encodeWith policy text).events.filterMap Event.packedByte? = blob := by
  rw [encodeWith_events_of_ok hvalue, (linesRecorded policy text).packed,
    encodeWith_eq_ok_iff.mp hvalue, List.filterMap_map]
  exact List.filterMap_some

/-- Encoding reports nothing but what there is on the lines of the source. -/
theorem mem_lineRecords_of_encodeWith
    {policy : WidthPolicy} {text : List Char} {event : Event}
    (hevent : event ∈ (encodeWith policy text).events) : event ∈ lineRecords policy text := by
  cases hvalue : (encodeWith policy text).value with
  | ok blob => rwa [encodeWith_events_of_ok hvalue] at hevent
  | error error =>
      rw [encodeWith_events_of_error hvalue, recordsThrough] at hevent
      obtain ⟨line, hline, hrecord⟩ := List.mem_filterMap.mp hevent
      exact List.mem_filterMap.mpr ⟨line, List.mem_of_mem_filter hline, hrecord⟩

theorem target_of_mem_encodeWith
    {policy : WidthPolicy} {text : List Char} {event : Event}
    (hevent : event ∈ (encodeWith policy text).events) : event.target = "font::row" := by
  obtain ⟨line, -, hnone | ⟨byte, hpacked⟩⟩ :=
    lineRecords_cases (mem_lineRecords_of_encodeWith hevent)
  · rw [hnone, Event.target]
  · rw [hpacked, Event.target]

/-! ## Whole glyphs and trailing rows -/

namespace Job

/-- The rows behind the last whole glyph. -/
def trailingRows (job : Job) (blob : List UInt8) : Nat :=
  blob.length % max job.glyphHeight.toNat 1

def table (job : Job) (blob : List UInt8) : GlyphTable :=
  ⟨blob, job.glyphHeight⟩

theorem glyphCount_mul_add_trailingRows
    {job : Job} (blob : List UInt8) (hheight : job.glyphHeight ≠ 0) :
    (job.table blob).glyphCount * job.glyphHeight.toNat + job.trailingRows blob = blob.length ∧
      job.trailingRows blob < job.glyphHeight.toNat := by
  have hpos : 0 < job.glyphHeight.toNat :=
    (job.table blob).height_ne_zero_iff.mp hheight
  have hmax : max job.glyphHeight.toNat 1 = job.glyphHeight.toNat := Nat.max_eq_left hpos
  have hcount : (job.table blob).glyphCount = blob.length / job.glyphHeight.toNat :=
    GlyphTable.glyphCount_of_height_ne_zero hheight
  rw [hcount, trailingRows, hmax]
  exact ⟨Nat.div_add_mod' _ _, Nat.mod_lt _ hpos⟩

theorem trailingRows_of_height_eq_zero
    {job : Job} (blob : List UInt8) (hheight : job.glyphHeight = 0) :
    (job.table blob).glyphCount = 0 ∧ job.trailingRows blob = 0 := by
  refine ⟨GlyphTable.glyphCount_of_height_eq_zero hheight, ?_⟩
  rw [trailingRows, hheight]
  exact Nat.mod_one _

/-! ## The records of a compilation -/

variable {σ Place : Type} [FileAccess (StateM σ)] [FileSystem σ Place]

theorem events_eq (job : Job) (store : σ) :
    job.events store =
      job.readEvents (FileSystem.read store job.fontPath) ++
        match job.result store with
        | .error _ => []
        | .ok blob => job.summary blob.length blob := by
  unfold events result
  rw [run_compile (FileSystem.run_read store job.fontPath)]
  cases job.encoding (FileSystem.read store job.fontPath) with
  | error error => exact (List.append_nil _).symm
  | ok blob =>
      dsimp only
      rw [FileSystem.run_write]
      cases FileSystem.write store job.outputPath blob with
      | error cause => exact (List.append_nil _).symm
      | ok after => rfl

theorem readEvents_of_unread
    {job : Job} {store : σ} {cause : ReadError} (hsource : job.source store = .error cause) :
    job.readEvents (FileSystem.read store job.fontPath) = [] := by
  unfold source at hsource
  simp only [readEvents, hsource]

theorem readEvents_of_source
    {job : Job} {store : σ} {text : List Char} (hsource : job.source store = .ok text) :
    job.readEvents (FileSystem.read store job.fontPath) =
      .sourceRead (encodeUtf8 text).length job.fontPath ::
        (encodeWith job.policy text).events := by
  unfold source at hsource
  have hsize : sourceSize (FileSystem.read store job.fontPath) = (encodeUtf8 text).length := by
    unfold sourceText at hsource
    split at hsource
    · contradiction
    · rename_i bytes hread
      split at hsource
      · contradiction
      · rename_i decoded hdecode
        obtain rfl := Except.ok.inj hsource
        rw [hread, encodeUtf8_of_decodeUtf8? hdecode, sourceSize]
  simp only [readEvents, hsource, hsize, encodeInto_events_unbounded]

/-- How what a compilation reports accounts for what it has done. -/
structure Accounted (job : Job) (store : σ) : Prop where
  unread : ∀ cause, job.source store = .error cause → job.events store = []
  stopped : ∀ text error, job.source store = .ok text → job.result store = .error error →
    job.events store =
      .sourceRead (encodeUtf8 text).length job.fontPath :: (encodeWith job.policy text).events
  finished : ∀ blob, job.result store = .ok blob → ∃ text,
    job.source store = .ok text ∧
    job.events store =
      .sourceRead (encodeUtf8 text).length job.fontPath ::
        ((encodeWith job.policy text).events ++
          .outputWritten blob.length (job.table blob).glyphCount job.glyphHeight.toNat
            job.outputPath ::
          if job.trailingRows blob = 0 then [] else [.trailingRows (job.trailingRows blob)]) ∧
    (encodeWith job.policy text).events.filterMap Event.packedByte? = blob
  encoding : ∀ text, job.source store = .ok text →
    (job.events store).filter (·.target = "font::row") = (encodeWith job.policy text).events
  glyphs : ∀ blob, blob.length < UInt64.size → ∀ index : UInt64,
    ((job.table blob).get? index).isSome = true ↔ index.toNat < (job.table blob).glyphCount
  cut : job.glyphHeight ≠ 0 → ∀ blob,
    (job.table blob).glyphCount * job.glyphHeight.toNat + job.trailingRows blob = blob.length ∧
      job.trailingRows blob < job.glyphHeight.toNat
  uncut : job.glyphHeight = 0 → ∀ blob,
    (job.table blob).glyphCount = 0 ∧ job.trailingRows blob = 0
  messages : ∀ event ∈ job.events store, event.target = "font_compiler" →
    (∃ bytes, event = .sourceRead bytes job.fontPath ∧
      event.message = s!"read {bytes} bytes from \"" ++ job.fontPath ++ "\"") ∨
    (∃ rows glyphs, event = .outputWritten rows glyphs job.glyphHeight.toNat job.outputPath ∧
      event.message =
        s!"wrote {rows} glyph rows ({glyphs} glyphs of {job.glyphHeight.toNat} rows) to \"" ++
          job.outputPath ++ "\"") ∨
    ∃ rows, event = .trailingRows rows ∧
      event.message = s!"{rows} trailing rows do not form a whole glyph"

theorem events_of_ok
    {job : Job} {store : σ} {text : List Char} {blob : List UInt8}
    (hsource : job.source store = .ok text) (hresult : job.result store = .ok blob) :
    job.events store =
      .sourceRead (encodeUtf8 text).length job.fontPath ::
        ((encodeWith job.policy text).events ++ job.summary blob.length blob) := by
  rw [events_eq, readEvents_of_source hsource, hresult]
  rfl

theorem events_of_error
    {job : Job} {store : σ} {text : List Char} {error : CompileError}
    (hsource : job.source store = .ok text) (hresult : job.result store = .error error) :
    job.events store =
      .sourceRead (encodeUtf8 text).length job.fontPath :: (encodeWith job.policy text).events := by
  rw [events_eq, readEvents_of_source hsource, hresult]
  exact List.append_nil _

theorem mem_summary
    {job : Job} {rows : Nat} {blob : List UInt8} {event : Event}
    (hevent : event ∈ job.summary rows blob) :
    (∃ glyphs, event = .outputWritten rows glyphs job.glyphHeight.toNat job.outputPath) ∨
      ∃ trailing, event = .trailingRows trailing := by
  unfold summary at hevent
  dsimp only at hevent
  rw [List.mem_cons] at hevent
  rcases hevent with rfl | hevent
  · exact .inl ⟨_, rfl⟩
  · split at hevent
    · contradiction
    · exact .inr ⟨_, List.mem_singleton.mp hevent⟩

theorem filter_events
    {job : Job} {store : σ} {text : List Char} (hsource : job.source store = .ok text) :
    (job.events store).filter (·.target = "font::row") =
      (encodeWith job.policy text).events := by
  have hkept :
      (encodeWith job.policy text).events.filter (·.target = "font::row") =
        (encodeWith job.policy text).events :=
    List.filter_eq_self.mpr fun event hevent => by simp [target_of_mem_encodeWith hevent]
  have hopening (rest : List Event) :
      (Event.sourceRead (encodeUtf8 text).length job.fontPath :: rest).filter
          (·.target = "font::row") =
        rest.filter (·.target = "font::row") :=
    List.filter_cons_of_neg (by simp [Event.target])
  cases hresult : job.result store with
  | error error => rw [events_of_error hsource hresult, hopening, hkept]
  | ok blob =>
      have hsummary :
          (job.summary blob.length blob).filter (·.target = "font::row") = [] := by
        refine List.filter_eq_nil_iff.mpr fun event hevent => ?_
        rcases mem_summary hevent with ⟨glyphs, rfl⟩ | ⟨trailing, rfl⟩ <;> simp [Event.target]
      rw [events_of_ok hsource hresult, hopening, List.filter_append, hkept, hsummary,
        List.append_nil]

/-- Besides the records of encoding its source a compilation has three of its own. -/
theorem mem_events
    {σ Place : Type} [FileAccess (StateM σ)] [FileSystem σ Place]
    {job : Job} {store : σ} {event : Event} (hevent : event ∈ job.events store) :
    event.target = "font::row" ∨
      (∃ bytes, event = .sourceRead bytes job.fontPath) ∨
      (∃ rows glyphs, event = .outputWritten rows glyphs job.glyphHeight.toNat job.outputPath) ∨
      ∃ trailing, event = .trailingRows trailing := by
  rw [events_eq, List.mem_append] at hevent
  rcases hevent with hread | hwritten
  · cases hsource : job.source store with
    | error cause =>
        rw [readEvents_of_unread hsource] at hread
        contradiction
    | ok text =>
        rw [readEvents_of_source hsource, List.mem_cons] at hread
        rcases hread with rfl | hrecord
        · exact .inr (.inl ⟨_, rfl⟩)
        · exact .inl (target_of_mem_encodeWith hrecord)
  · cases hresult : job.result store with
    | error error =>
        rw [hresult] at hwritten
        contradiction
    | ok blob =>
        rw [hresult] at hwritten
        rcases mem_summary hwritten with ⟨glyphs, rfl⟩ | ⟨trailing, rfl⟩
        · exact .inr (.inr (.inl ⟨_, glyphs, rfl⟩))
        · exact .inr (.inr (.inr ⟨trailing, rfl⟩))

/-- The records of a compilation are those of its stages, as far as it has come.  The
rows of its summary are the packed rows recorded before and the bytes of the blob, cut
into the glyphs that lookups find and the trailing rows. -/
theorem compile_accounted (job : Job) (store : σ) : job.Accounted store where
  unread cause hsource := by
    have hresult := ((job.allOrNothing store).unread cause hsource).1
    rw [events_eq, readEvents_of_unread hsource, hresult]
    rfl
  stopped _ _ hsource hresult := events_of_error hsource hresult
  finished blob hresult := by
    obtain ⟨text, -, hsource, hencode, -⟩ := ((job.allOrNothing store).ok_iff blob).mp hresult
    exact ⟨text, hsource, events_of_ok hsource hresult, packedBytes_of_encodeWith hencode⟩
  encoding _ hsource := filter_events hsource
  glyphs blob hblob index := by
    rw [GlyphTable.get?_eq index hblob]
    by_cases hcount : index.toNat < (job.table blob).glyphCount <;> simp [hcount]
  cut hheight blob := glyphCount_mul_add_trailingRows blob hheight
  uncut hheight blob := trailingRows_of_height_eq_zero blob hheight
  messages event hevent htarget := by
    rcases mem_events hevent with hrow | ⟨bytes, rfl⟩ | ⟨rows, glyphs, rfl⟩ | ⟨trailing, rfl⟩
    · rw [hrow] at htarget
      contradiction
    · exact .inl ⟨bytes, rfl, rfl⟩
    · exact .inr (.inl ⟨rows, glyphs, rfl, rfl⟩)
    · exact .inr (.inr ⟨trailing, rfl, rfl⟩)

end Job

end BitmapFont
