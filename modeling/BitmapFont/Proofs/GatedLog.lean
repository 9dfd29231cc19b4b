import BitmapFont.Compile
import BitmapFont.Cursor.Program
import BitmapFont.Preview

/-!
# Logs with a gate

A gate is asked about an event at the place where it is reported, so that an event that is
not to be shown is never taken.  The values do not depend on it, and what a log with a gate
has taken is what the gate lets through of all there is to report: it makes no difference
whether events are chosen at once or in the end.

For the row cursor this is shown of the search for the next row, event by event.  All other
uses of a cursor follow from its requests.
-/

namespace BitmapFont

/-- What has been reported, as far as a gate lets it through. -/
def Logged.gated {α : Type} (gate : Gate) (logged : Logged α) : Logged α :=
  ⟨logged.value, logged.events.filter gate⟩

@[simp] theorem Logged.gated_wide {α : Type} (logged : Logged α) :
    logged.gated .wide = logged := by
  simp [gated]

/-- A log with a gate goes on holding what the gate lets through of the other. -/
theorem Gate.toList_report_of_filter
    {gate : Gate} {log told : Array Event} (event : Event)
    (htold : told.toList = log.toList.filter gate) :
    (gate.report told event).toList = (wide.report log event).toList.filter gate := by
  rw [toList_report, toList_report, filter_wide, List.filter_append, htold]

/-! ## The search for a row -/

namespace RowCursor

/-- The gate decides about the events alone: the item and the cursor behind it are those of
a log without one. -/
theorem nextFrom_gated
    (gate : Gate) (cursor : RowCursor) (log : Array Event) :
    ∀ told : Array Event, told.toList = log.toList.filter gate →
      cursor.nextFrom gate told =
        ⟨(cursor.nextFrom .wide log).item, (cursor.nextFrom .wide log).events.filter gate,
          (cursor.nextFrom .wide log).rest⟩ := by
  -- The invariant is `htold`: the gated log holds what the gate lets through of the other.
  fun_induction nextFrom .wide cursor log with
  | case1 cursor log hline =>
      intro told htold
      rw [nextFrom_of_end gate told hline, htold]
  | case2 cursor log line lines hline number after hrow ih =>
      intro told htold
      simp only [nextFrom_of_line gate told hline]
      rw [hrow]
      exact ih _ (Gate.toList_report_of_filter _ htold)
  | case3 cursor log line lines hline number after token hrow byte hpack =>
      intro told htold
      simp only [nextFrom_of_line gate told hline]
      rw [hrow]
      simp only [hpack]
      rw [Gate.toList_report_of_filter _ htold]
  | case4 cursor log line lines hline number after token hrow error hpack =>
      intro told htold
      simp only [nextFrom_of_line gate told hline]
      rw [hrow]
      simp only [hpack]
      rw [htold]

end RowCursor

/-! ## Requests through a gate -/

namespace Cursor

variable {σ τ ι β ε : Type} [Cursor σ ι] [Cursor τ ι] {gate : Gate} {put : σ → τ}

/-- Cursors of one type are those of another with a gate to their logs: a request hands out
the same item, reports what the gate lets through, and leaves such a cursor behind. -/
structure Gates (gate : Gate) (put : σ → τ) : Prop where
  item : ∀ state, (next (put state)).item = (next state).item
  events : ∀ state, (next (put state)).events = (next state).events.filter gate
  rest : ∀ state, (next (put state)).rest = put (next state).rest

theorem Gates.next_eq
    {state rest : σ} {item : Option ι} {events : List Event} (hput : Gates gate put)
    (hnext : next state = ⟨item, events, rest⟩) :
    next (put state) = ⟨item, events.filter gate, put rest⟩ := by
  have hitem : (next (put state)).item = item := by rw [hput.item, hnext]
  have hevents : (next (put state)).events = events.filter gate := by rw [hput.events, hnext]
  have hrest : (next (put state)).rest = put rest := by rw [hput.rest, hnext]
  rw [← hitem, ← hevents, ← hrest]

/-! ## One round of each traversal -/

section Rounds

variable {state rest : σ} {events : List Event} {item : ι}

theorem feedFrom_of_none
    (combine : β → ι → Except ε β) (result : β) (log : Array Event)
    (hnext : next state = ⟨none, events, rest⟩) :
    feedFrom combine state result log = ⟨.ok result, (log ++ events).toList⟩ := by
  rw [feedFrom]
  split <;> simp_all

theorem feedFrom_of_ok
    {combine : β → ι → Except ε β} {result combined : β} (log : Array Event)
    (hnext : next state = ⟨some item, events, rest⟩)
    (hcombine : combine result item = .ok combined) :
    feedFrom combine state result log = feedFrom combine rest combined (log ++ events) := by
  rw [feedFrom]
  split <;> simp_all

theorem feedFrom_of_error
    {combine : β → ι → Except ε β} {result : β} {refusal : ε} (log : Array Event)
    (hnext : next state = ⟨some item, events, rest⟩)
    (hcombine : combine result item = .error refusal) :
    feedFrom combine state result log = ⟨.error refusal, (log ++ events).toList⟩ := by
  rw [feedFrom]
  split <;> simp_all

end Rounds

/-! ## Traversals through a gate -/

namespace Gates

theorem feedFrom_put
    {log told : Array Event} (hput : Gates gate put) (combine : β → ι → Except ε β) (state : σ)
    (result : β) (htold : told.toList = log.toList.filter gate) :
    feedFrom combine (put state) result told =
      (feedFrom combine state result log).gated gate := by
  fun_induction feedFrom combine state result log generalizing told with
  | case1 state result log events rest hnext =>
      rw [feedFrom_of_none combine result told (hput.next_eq hnext)]
      simp [htold, Logged.gated]
  | case2 state result log item events rest hnext next hcombine ih =>
      rw [feedFrom_of_ok told (hput.next_eq hnext) hcombine]
      exact ih (by simp [htold])
  | case3 state result log item events rest hnext refusal hcombine =>
      rw [feedFrom_of_error told (hput.next_eq hnext) hcombine]
      simp [htold, Logged.gated]

theorem feed_put (hput : Gates gate put) (combine : β → ι → Except ε β) (start : β) (state : σ) :
    feed combine start (put state) = (feed combine start state).gated gate :=
  hput.feedFrom_put combine state start rfl

end Gates

/-! ## Programs through a gate -/

namespace Gates

end Gates

end Cursor

/-! ## Encoding through a gate -/

theorem GatedRows.gates (gate : Gate) : Cursor.Gates gate (GatedRows.mk gate) where
  item rows := congrArg Pull.item (rows.nextFrom_gated gate #[] #[] rfl)
  events rows := congrArg Pull.events (rows.nextFrom_gated gate #[] #[] rfl)
  rest rows := congrArg (fun pull => mk gate pull.rest) (rows.nextFrom_gated gate #[] #[] rfl)

theorem encodeIntoGated_eq (gate : Gate) (policy : WidthPolicy) (text : List Char) (sink : Sink) :
    encodeIntoGated gate policy text sink = (encodeInto policy text sink).gated gate :=
  (GatedRows.gates gate).feed_put Written.push ⟨0, sink⟩ (RowCursor.ofText text policy)

theorem encodeIntoGated_wide (policy : WidthPolicy) (text : List Char) (sink : Sink) :
    encodeIntoGated .wide policy text sink = encodeInto policy text sink := by
  rw [encodeIntoGated_eq, Logged.gated_wide]

/-! ## Previews through a gate -/

theorem previewFrom_gated
    {gate : Gate} {log told : Array Event}
    (table : GlyphTable) (chars : List Char) (sink : Sink)
    (htold : told.toList = log.toList.filter gate) :
    previewFrom gate table chars sink told =
      (previewFrom .wide table chars sink log).gated gate := by
  induction chars generalizing sink log told with
  | nil => exact congrArg (Logged.mk _) htold
  | cons c chars ih =>
      rw [previewFrom, previewFrom]
      cases table.getChar? c with
      | none => exact ih sink (Gate.toList_report_of_filter _ htold)
      | some glyph =>
          cases hwrite : sink.write (Text.encodeUtf8 (previewBlock c glyph)) with
          | ok after =>
              simp only [hwrite]
              exact ih after htold
          | error after =>
              simp only [hwrite]
              exact congrArg (Logged.mk _) htold

theorem previewGated_eq (gate : Gate) (table : GlyphTable) (chars : List Char) (sink : Sink) :
    previewGated gate table chars sink = (preview table chars sink).gated gate :=
  previewFrom_gated table chars sink rfl

/-! ## Compilations through a gate -/

theorem compileGated_eq
    {m : Type → Type} [Monad m] [LawfulMonad m] [FileAccess m] (gate : Gate) (job : Job) :
    (compileGated gate job : m _) = Logged.gated gate <$> compile job := by
  unfold compile compileGated
  rw [map_bind]
  refine bind_congr fun source => ?_
  cases source with
  | error cause => simp [Logged.gated]
  | ok read =>
      obtain ⟨text, size⟩ := read
      dsimp only
      rw [encodeIntoGated_eq, encodeIntoGated_wide]
      cases hencoded : (encodeInto job.policy text .unbounded).value with
      | error failure =>
          simp only [Logged.gated, hencoded, map_pure, Gate.filter_wide, List.filter_append]
      | ok written =>
          simp only [Logged.gated, hencoded, map_bind]
          refine bind_congr fun result => ?_
          cases result with
          | error cause =>
              simp only [map_pure, Logged.gated, Gate.filter_wide, List.filter_append]
          | ok done => simp only [map_pure, Logged.gated, Gate.filter_wide, List.filter_append]

end BitmapFont
