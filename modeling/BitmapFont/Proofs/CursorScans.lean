import BitmapFont.Proofs.CursorPrograms

/-!
# What cursors report

A cursor may work through a list of entries, not all of which have an item.  One
request passes entries until it has found an item and reports every entry it has
passed, so that what is reported and what is still to come make up the list.

From that one law follows what is reported by every way of using the cursor.  Used
to its end it has reported all entries.  After some requests it has reported the
entries through the last item it has handed out.  Where a failure stops it, it has
reported the entries through the one whose item could not be combined.
-/

namespace BitmapFont.Cursor

variable {σ ι α β ε : Type} [Cursor σ ι]

/-! ## The law of one request -/

section Entries

variable (pending : σ → List α) (item? : α → Option ι) (record? : α → Option Event)

/-- What a request does that finds certain entries pending, when some events have
been reported before. -/
inductive Scanned (entries : List α) (told : List Event) : Pull σ ι → Prop
  | found (passed : List α) (entry : α) {item : ι} {events : List Event} {rest : σ}
      (split : entries = passed ++ entry :: pending rest)
      (skipped : ∀ other ∈ passed, item? other = none)
      (has : item? entry = some item)
      (reported : events = told ++ (passed ++ [entry]).filterMap record?) :
      Scanned entries told ⟨some item, events, rest⟩
  | ended {events : List Event} {rest : σ}
      (skipped : ∀ other ∈ entries, item? other = none)
      (spent : pending rest = [])
      (reported : events = told ++ entries.filterMap record?) :
      Scanned entries told ⟨none, events, rest⟩

def hasItem (entry : α) : Bool :=
  (item? entry).isSome

/-- The cursor works through the entries that are pending. -/
def Scan : Prop :=
  ∀ state : σ, Scanned pending item? record? (pending state) [] (next state)

end Entries

theorem hasItem_eq_false_of_skipped
    {item? : α → Option ι} {passed : List α} (hskipped : ∀ other ∈ passed, item? other = none) :
    ∀ other ∈ passed, hasItem item? other = false := by
  intro other hother
  rw [hasItem, hskipped other hother, Option.isSome_none]

/-- The entries that have an item are in step with the items. -/
theorem getElem?_filterMap_item? (item? : α → Option ι) (entries : List α) (place : Nat) :
    (entries.filterMap item?)[place]? =
      ((entries.filter (hasItem item?))[place]?).bind item? := by
  induction entries generalizing place with
  | nil => rfl
  | cons entry entries ih =>
      cases hentry : item? entry with
      | none =>
          have hskipped : ¬hasItem item? entry = true := by simp [hasItem, hentry]
          rw [List.filterMap_cons_none hentry, List.filter_cons_of_neg hskipped, ih]
      | some item =>
          have hcounts : hasItem item? entry = true := by rw [hasItem, hentry, Option.isSome_some]
          rw [List.filterMap_cons_some hentry, List.filter_cons_of_pos hcounts]
          cases place with
          | zero => simp [hentry]
          | succ place => simp [ih]

omit [Cursor σ ι] in
/-- What a request does behind an entry without an item, it does from that entry on,
provided the entry has been reported. -/
theorem Scanned.cons
    {pending : σ → List α} {item? : α → Option ι} {record? : α → Option Event}
    {entry : α} {entries : List α} {told : List Event} {pull : Pull σ ι}
    (hscanned :
      Scanned pending item? record? entries (told ++ [entry].filterMap record?) pull)
    (hentry : item? entry = none) :
    Scanned pending item? record? (entry :: entries) told pull := by
  cases hscanned with
  | found passed last hsplit hskipped hhas hreported =>
      refine .found (entry :: passed) last (by rw [hsplit]; rfl) ?_ hhas ?_
      · exact List.forall_mem_cons.mpr ⟨hentry, hskipped⟩
      · rw [hreported, List.append_assoc, ← List.filterMap_append]
        rfl
  | ended hskipped hspent hreported =>
      refine .ended (List.forall_mem_cons.mpr ⟨hentry, hskipped⟩) hspent ?_
      rw [hreported, List.append_assoc, ← List.filterMap_append]
      rfl

/-! ## Entries through an item -/

/-- The entries of a list through the last of so many that are counted, or all of
them if there are not so many. -/
def through (counts : α → Bool) : Nat → List α → List α
  | 0, _ => []
  | _ + 1, [] => []
  | wanted + 1, entry :: rest =>
      entry :: through counts (if counts entry then wanted else wanted + 1) rest

@[simp] theorem through_zero (counts : α → Bool) (entries : List α) :
    through counts 0 entries = [] := by
  rw [through]

@[simp] theorem through_nil (counts : α → Bool) (wanted : Nat) : through counts wanted [] = [] := by
  cases wanted <;> rfl

theorem through_append_of_skipped
    {counts : α → Bool} {passed : List α} (wanted : Nat) (rest : List α)
    (hskipped : ∀ other ∈ passed, counts other = false) :
    through counts (wanted + 1) (passed ++ rest) =
      passed ++ through counts (wanted + 1) rest := by
  induction passed with
  | nil => rfl
  | cons entry passed ih =>
      have hentry : counts entry = false := hskipped entry List.mem_cons_self
      have hpassed := ih fun other hother => hskipped other (List.mem_cons_of_mem entry hother)
      rw [List.cons_append, through, hentry, if_neg Bool.false_ne_true, hpassed,
        List.cons_append]

theorem through_cons_of_counts
    {counts : α → Bool} {entry : α} (wanted : Nat) (rest : List α)
    (hentry : counts entry = true) :
    through counts (wanted + 1) (entry :: rest) = entry :: through counts wanted rest := by
  rw [through, hentry, if_pos rfl]

theorem through_passed
    {item? : α → Option ι} {passed : List α} {entry : α} {item : ι} (wanted : Nat)
    (rest : List α) (hskipped : ∀ other ∈ passed, item? other = none)
    (hentry : item? entry = some item) :
    through (hasItem item?) (wanted + 1) (passed ++ entry :: rest) =
      passed ++ [entry] ++ through (hasItem item?) wanted rest := by
  have hcounts : hasItem item? entry = true := by rw [hasItem, hentry, Option.isSome_some]
  rw [through_append_of_skipped wanted _ (hasItem_eq_false_of_skipped hskipped),
    through_cons_of_counts wanted rest hcounts, List.append_assoc, List.singleton_append]

theorem through_skipped
    {item? : α → Option ι} {entries : List α} (wanted : Nat)
    (hskipped : ∀ other ∈ entries, item? other = none) :
    through (hasItem item?) (wanted + 1) entries = entries := by
  have hthrough :=
    through_append_of_skipped wanted [] (hasItem_eq_false_of_skipped hskipped)
  rwa [through_nil, List.append_nil] at hthrough

/-- Through the last of so many that are counted the list ends with that one. -/
theorem through_eq
    {counts : α → Bool} {wanted : Nat} {entries : List α} {entry : α}
    (hentry : (entries.filter counts)[wanted]? = some entry) :
    ∃ before behind,
      entries = before ++ entry :: behind ∧
      through counts (wanted + 1) entries = before ++ [entry] := by
  induction entries generalizing wanted with
  | nil => simp at hentry
  | cons first rest ih =>
      cases hfirst : counts first with
      | false =>
          rw [List.filter_cons_of_neg (by simp [hfirst])] at hentry
          obtain ⟨before, behind, hrest, hthrough⟩ := ih hentry
          refine ⟨first :: before, behind, by rw [hrest, List.cons_append], ?_⟩
          rw [through, hfirst, if_neg Bool.false_ne_true, hthrough, List.cons_append]
      | true =>
          rw [List.filter_cons_of_pos hfirst] at hentry
          rw [through_cons_of_counts wanted rest hfirst]
          cases wanted with
          | zero =>
              obtain rfl : first = entry := by simpa using hentry
              exact ⟨[], rest, rfl, by rw [through, List.nil_append]⟩
          | succ fewer =>
              obtain ⟨before, behind, hrest, hthrough⟩ := ih (by simpa using hentry)
              refine ⟨first :: before, behind, by rw [hrest, List.cons_append], ?_⟩
              rw [hthrough, List.cons_append]

theorem through_eq_self
    {counts : α → Bool} {wanted : Nat} {entries : List α}
    (hfew : (entries.filter counts)[wanted]? = none) :
    through counts (wanted + 1) entries = entries := by
  induction entries generalizing wanted with
  | nil => rfl
  | cons first rest ih =>
      cases hfirst : counts first with
      | false =>
          rw [List.filter_cons_of_neg (by simp [hfirst])] at hfew
          rw [through, hfirst, if_neg Bool.false_ne_true, ih hfew]
      | true =>
          rw [List.filter_cons_of_pos hfirst] at hfew
          rw [through_cons_of_counts wanted rest hfirst]
          cases wanted with
          | zero => simp at hfew
          | succ fewer => rw [ih (by simpa using hfew)]

/-! ## Feeding entries -/

section Feeding

variable (item? : α → Option ι) (record? : α → Option Event)

/-- Combines the items of entries and reports each entry on the way, the one whose
item cannot be combined included. -/
def feedEntries (combine : β → ι → Except ε β) : β → List α → Logged (Except ε β)
  | result, [] => ⟨.ok result, []⟩
  | result, entry :: rest =>
      match (item? entry).elim (.ok result) (combine result) with
      | .ok result =>
          let later := feedEntries combine result rest
          ⟨later.value, [entry].filterMap record? ++ later.events⟩
      | .error refusal => ⟨.error refusal, [entry].filterMap record?⟩

variable {item? : α → Option ι} {record? : α → Option Event}

theorem feedEntries_append_of_skipped
    {combine : β → ι → Except ε β} {passed : List α} (result : β) (rest : List α)
    (hskipped : ∀ other ∈ passed, item? other = none) :
    feedEntries item? record? combine result (passed ++ rest) =
      let later := feedEntries item? record? combine result rest
      ⟨later.value, passed.filterMap record? ++ later.events⟩ := by
  induction passed with
  | nil => rfl
  | cons entry passed ih =>
      have hentry : item? entry = none := hskipped entry List.mem_cons_self
      have hpassed := ih fun other hother => hskipped other (List.mem_cons_of_mem entry hother)
      rw [List.cons_append, feedEntries, hentry]
      simp only [Option.elim_none, hpassed]
      rw [← List.append_assoc, ← List.filterMap_append, List.singleton_append]

/-- A feeding that fails does so at one entry, and has reported the entries through
that one. -/
theorem split_of_feedEntries_error
    {combine : β → ι → Except ε β} {result : β} {entries : List α} {refusal : ε}
    (hvalue : (feedEntries item? record? combine result entries).value = .error refusal) :
    ∃ before entry behind item reached,
      entries = before ++ entry :: behind ∧ item? entry = some item ∧
      (before.filterMap item?).foldlM combine result = .ok reached ∧
      combine reached item = .error refusal ∧
      (feedEntries item? record? combine result entries).events =
        (before ++ [entry]).filterMap record? := by
  fun_induction feedEntries item? record? combine result entries with
  | case1 result => contradiction
  | case2 result entry rest next hcombine later ih =>
      obtain ⟨before, failing, behind, item, reached, hrest, hitem, hreached, hfails, hevents⟩ :=
        ih hvalue
      refine ⟨entry :: before, failing, behind, item, reached, by rw [hrest]; rfl, hitem,
        ?_, hfails, ?_⟩
      · rw [List.filterMap_cons]
        cases hentry : item? entry with
        | none =>
            simp only [hentry, Option.elim_none, Except.ok.injEq] at hcombine
            rw [hcombine]
            exact hreached
        | some first =>
            simp only [hentry, Option.elim_some] at hcombine
            rw [List.foldlM_cons, hcombine]
            exact hreached
      · rw [hevents, ← List.filterMap_append, List.singleton_append, List.cons_append]
  | case3 result entry rest error hcombine =>
      obtain rfl : error = refusal := Except.error.inj hvalue
      cases hentry : item? entry with
      | none => simp [hentry] at hcombine
      | some item =>
          simp only [hentry, Option.elim_some] at hcombine
          exact ⟨[], entry, rest, item, result, rfl, hentry, rfl, hcombine, rfl⟩

end Feeding

/-! ## Using a cursor -/

theorem nth_zero (state : σ) :
    nth 0 state = ⟨((next state).item, (next state).rest), (next state).events⟩ := by
  rw [nth, nthFrom]
  cases next state with
  | mk item events rest => cases item <;> simp

theorem events_run_next_cons (program : List Step) (state : σ) :
    (run (.next :: program) [state]).events =
      (next state).events ++ (run program [(next state).rest]).events := by
  simp [run, Step.perform, onTop, nth_zero]

theorem runOnLists_replicate_next (count : Nat) (items : List ι) :
    runOnLists (List.replicate count .next) [items] =
      (List.range count).map fun place => .item items[place]? := by
  induction count generalizing items with
  | zero => rfl
  | succ count ih =>
      have hlater :
          (fun place => (Answer.item items.tail[place]? : Answer ι)) =
            (fun place => .item items[place]?) ∘ Nat.succ := by
        funext place
        rw [List.getElem?_tail]
        rfl
      rw [List.replicate_succ, runOnLists, List.range_succ_eq_map, List.map_cons, List.map_map,
        ← hlater, ← ih, ← List.head?_eq_getElem?]
      rfl

namespace Scan

variable {pending : σ → List α} {item? : α → Option ι} {record? : α → Option Event}

/-- A request that hands out an item has passed some entries without one and the entry
of its item. -/
theorem found_of_next
    (hscan : Scan pending item? record?) {state rest : σ} {item : ι} {events : List Event}
    (hnext : next state = ⟨some item, events, rest⟩) :
    ∃ passed entry,
      pending state = passed ++ entry :: pending rest ∧
      (∀ other ∈ passed, item? other = none) ∧
      item? entry = some item ∧
      events = (passed ++ [entry]).filterMap record? := by
  have hstate := hscan state
  rw [hnext] at hstate
  cases hstate with
  | found passed entry hsplit hskipped hhas hreported =>
      exact ⟨passed, entry, hsplit, hskipped, hhas, by rw [hreported, List.nil_append]⟩

/-- A request without an item has passed all entries. -/
theorem ended_of_next
    (hscan : Scan pending item? record?) {state rest : σ} {events : List Event}
    (hnext : next state = ⟨none, events, rest⟩) :
    (∀ other ∈ pending state, item? other = none) ∧
      pending rest = [] ∧
      events = (pending state).filterMap record? := by
  have hstate := hscan state
  rw [hnext] at hstate
  cases hstate with
  | ended hskipped hspent hreported =>
      exact ⟨hskipped, hspent, by rw [hreported, List.nil_append]⟩

theorem listing (hscan : Scan pending item? record?) :
    Listing fun state => (pending state).filterMap item? where
  item state := by
    cases hnext : next state with
    | mk found events rest =>
        cases found with
        | some item =>
            obtain ⟨passed, entry, hsplit, hskipped, hhas, -⟩ := hscan.found_of_next hnext
            rw [hsplit, List.filterMap_append, List.filterMap_eq_nil_iff.mpr hskipped,
              List.nil_append, List.filterMap_cons_some hhas, List.head?_cons]
        | none =>
            obtain ⟨hskipped, -, -⟩ := hscan.ended_of_next hnext
            rw [List.filterMap_eq_nil_iff.mpr hskipped, List.head?_nil]
  rest state := by
    cases hnext : next state with
    | mk found events rest =>
        cases found with
        | some item =>
            obtain ⟨passed, entry, hsplit, hskipped, hhas, -⟩ := hscan.found_of_next hnext
            rw [hsplit, List.filterMap_append, List.filterMap_eq_nil_iff.mpr hskipped,
              List.nil_append, List.filterMap_cons_some hhas, List.tail_cons]
        | none =>
            obtain ⟨hskipped, hspent, -⟩ := hscan.ended_of_next hnext
            rw [List.filterMap_eq_nil_iff.mpr hskipped, hspent]
            rfl

theorem foldFrom_events
    (hscan : Scan pending item? record?) (combine : β → ι → β) (state : σ) (result : β)
    (log : Array Event) :
    (foldFrom combine state result log).events =
      log.toList ++ (pending state).filterMap record? := by
  fun_induction foldFrom combine state result log with
  | case1 state result log events rest hnext =>
      obtain ⟨-, -, rfl⟩ := hscan.ended_of_next hnext
      simp
  | case2 state result log item events rest hnext ih =>
      obtain ⟨passed, entry, hsplit, -, -, rfl⟩ := hscan.found_of_next hnext
      rw [ih, Array.toList_appendList, List.append_assoc, ← List.filterMap_append,
        ← List.append_cons, hsplit]

/-- A cursor that is used to its end has reported every entry. -/
theorem collect_events (hscan : Scan pending item? record?) (state : σ) :
    (collect state).events = (pending state).filterMap record? := by
  have hfold := hscan.foldFrom_events Array.push state #[] #[]
  simpa [collect, fold] using hfold

theorem feedFrom_eq
    (hscan : Scan pending item? record?) (combine : β → ι → Except ε β) (state : σ)
    (result : β) (log : Array Event) :
    feedFrom combine state result log =
      let fed := feedEntries item? record? combine result (pending state)
      ⟨fed.value, log.toList ++ fed.events⟩ := by
  fun_induction feedFrom combine state result log with
  | case1 state result log events rest hnext =>
      obtain ⟨hskipped, -, rfl⟩ := hscan.ended_of_next hnext
      have hfed :
          feedEntries item? record? combine result (pending state ++ []) = _ :=
        feedEntries_append_of_skipped result [] hskipped
      rw [List.append_nil] at hfed
      simp [hfed, feedEntries]
  | case2 state result log item events rest hnext next hcombine ih =>
      obtain ⟨passed, entry, hsplit, hskipped, hhas, rfl⟩ := hscan.found_of_next hnext
      rw [ih, hsplit, feedEntries_append_of_skipped result _ hskipped, feedEntries, hhas]
      simp [hcombine]
  | case3 state result log item events rest hnext refusal hcombine =>
      obtain ⟨passed, entry, hsplit, hskipped, hhas, rfl⟩ := hscan.found_of_next hnext
      rw [hsplit, feedEntries_append_of_skipped result _ hskipped, feedEntries, hhas]
      simp [hcombine]

theorem feed_eq
    (hscan : Scan pending item? record?) (combine : β → ι → Except ε β) (start : β)
    (state : σ) :
    feed combine start state = feedEntries item? record? combine start (pending state) := by
  have hfeed := hscan.feedFrom_eq combine state start #[]
  simpa [feed] using hfeed

/-- A cursor has reported no more than what its requests had to pass. -/
theorem run_next_events (hscan : Scan pending item? record?) (count : Nat) (state : σ) :
    (run (List.replicate count .next) [state]).events =
      (through (hasItem item?) count (pending state)).filterMap record? := by
  induction count generalizing state with
  | zero =>
      rw [through_zero]
      rfl
  | succ count ih =>
      rw [List.replicate_succ, events_run_next_cons, ih]
      cases hnext : next state with
      | mk found events rest =>
          cases found with
          | some item =>
              obtain ⟨passed, entry, hsplit, hskipped, hhas, rfl⟩ := hscan.found_of_next hnext
              rw [hsplit, through_passed count _ hskipped hhas]
              exact List.filterMap_append.symm
          | none =>
              obtain ⟨hskipped, hspent, rfl⟩ := hscan.ended_of_next hnext
              rw [through_skipped count hskipped]
              simp [hspent]

end Scan

end BitmapFont.Cursor
