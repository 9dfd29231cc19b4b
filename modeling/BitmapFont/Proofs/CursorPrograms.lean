import BitmapFont.Cursor.Program
import BitmapFont.Proofs.SourceRows

/-!
# Programs over cursors as programs over lists

Whatever program is run on a cursor, its answers are those of the list of the
items still to come.  Each step is simulated on a stack of lists: the view of the
stack that the step leaves is what the same step leaves of the view.  The three
kinds of cursors are listed by views of their own, so one simulation serves all.

Two consequences speak of the answers alone.  A cursor that has once answered
that it has no item answers so ever after.  And what a program does to a copy
cannot be told from any answer of the cursor that was copied.
-/

namespace BitmapFont.Cursor

/-! ## Programs over lists -/

section Lists

variable {ι : Type}

/-- One step on a stack of lists. -/
def Step.onLists (step : Step) (stack : List (List ι)) : Answer ι × List (List ι) :=
  match stack with
  | [] => (step.idle, [])
  | top :: below =>
      match step with
      | .next => (.item top.head?, top.tail :: below)
      | .nth skipped => (.item top[skipped]?, top.drop (skipped + 1) :: below)
      | .collect => (.items top, [] :: below)
      | .count => (.number top.length, [] :: below)
      | .last => (.item top.getLast?, [] :: below)
      | .fork => (.number (below.length + 2), top :: top :: below)
      | .drop => (.number below.length, below)

def runOnLists : List Step → List (List ι) → List (Answer ι)
  | [], _ => []
  | step :: rest, stack => (step.onLists stack).1 :: runOnLists rest (step.onLists stack).2

theorem onTop_value
    {σ α : Type} {view : σ → List ι} {top : σ} {below : List σ} {use : σ → Logged (α × σ)}
    {answer : α → Answer ι} {value : α} {rest : List ι}
    (huse : (use top).value.1 = value ∧ view (use top).value.2 = rest) :
    ((onTop top below use answer).value.1, (onTop top below use answer).value.2.map view) =
      (answer value, rest :: below.map view) := by
  obtain ⟨rfl, rfl⟩ := huse
  rfl

end Lists

/-! ## Using a cursor up -/

variable {σ ι β : Type} [Cursor σ ι]

namespace Listing

variable {view : σ → List ι}

theorem foldFrom_rest
    (hview : Listing view) (combine : β → ι → β) (state : σ) (result : β)
    (log : Array Event) :
    view (foldFrom combine state result log).value.2 = [] := by
  fun_induction foldFrom combine state result log with
  | case1 state result log events rest hnext =>
      have hrest := hview.rest state
      rw [hnext, hview.nil_of_next hnext] at hrest
      exact hrest
  | case2 state result log item events rest hnext ih => exact ih

theorem collect_value (hview : Listing view) (state : σ) :
    (collect state).value.1 = view state ∧ view (collect state).value.2 = [] :=
  ⟨hview.items_eq state, hview.foldFrom_rest Array.push state #[] #[]⟩

theorem count_value (hview : Listing view) (state : σ) :
    (count state).value.1 = (view state).length ∧ view (count state).value.2 = [] := by
  constructor
  · simp [count, hview.fold_value]
  · exact hview.foldFrom_rest _ state 0 #[]

theorem last_value (hview : Listing view) (state : σ) :
    (last state).value.1 = (view state).getLast? ∧ view (last state).value.2 = [] := by
  constructor
  · rw [last, hview.fold_value]
    induction view state using List.reverseRecOn with
    | nil => rfl
    | append_singleton items item ih => simp
  · exact hview.foldFrom_rest _ state none #[]

theorem nthFrom_value
    (hview : Listing view) (skipped : Nat) (state : σ) (log : Array Event) :
    (nthFrom skipped state log).value.1 = (view state)[skipped]? ∧
      view (nthFrom skipped state log).value.2 = (view state).drop (skipped + 1) := by
  fun_induction nthFrom skipped state log with
  | case1 skipped state log events rest hnext =>
      have hrest := hview.rest state
      rw [hnext, hview.nil_of_next hnext] at hrest
      rw [hview.nil_of_next hnext]
      exact ⟨rfl, hrest⟩
  | case2 state log item events rest hnext =>
      rw [hview.cons_of_next hnext]
      exact ⟨rfl, rfl⟩
  | case3 state log item events rest hnext fewer ih =>
      rw [hview.cons_of_next hnext, List.getElem?_cons_succ, List.drop_succ_cons]
      exact ih

/-! ## The simulation -/

/-- A step does to the stack what it does to the lists of the stack. -/
theorem perform_value (hview : Listing view) (step : Step) (stack : List σ) :
    ((step.perform stack).value.1, (step.perform stack).value.2.map view) =
      step.onLists (stack.map view) := by
  cases stack with
  | nil => rfl
  | cons top below =>
      cases step with
      | next =>
          have hnext := hview.nthFrom_value 0 top #[]
          rw [← List.head?_eq_getElem?, Nat.zero_add, List.drop_one] at hnext
          exact onTop_value hnext
      | nth skipped => exact onTop_value (hview.nthFrom_value skipped top #[])
      | collect => exact onTop_value (hview.collect_value top)
      | count => exact onTop_value (hview.count_value top)
      | last => exact onTop_value (hview.last_value top)
      | fork => simp [Step.perform, Step.onLists]
      | drop => simp [Step.perform, Step.onLists]

theorem run_value (hview : Listing view) (program : List Step) (stack : List σ) :
    (run program stack).value = runOnLists program (stack.map view) := by
  induction program generalizing stack with
  | nil => rfl
  | cons step rest ih =>
      rw [runOnLists, ← hview.perform_value step stack, ← ih]
      rfl

example :
    runOnLists [.nth 1, .fork, .collect, .drop, .count, .last] [[3, 5, 7, 9]] =
      [.item (some 5), .number 2, .items [7, 9], .number 1, .number 2, .item none] := rfl

end Listing

/-! ## The stack a program leaves -/

def leave (program : List Step) (stack : List σ) : List σ :=
  program.foldl (fun stack step => (step.perform stack).value.2) stack

theorem length_run (program : List Step) (stack : List σ) :
    (run program stack).value.length = program.length := by
  induction program generalizing stack with
  | nil => rfl
  | cons step rest ih => exact congrArg (· + 1) (ih _)

theorem run_append (program more : List Step) (stack : List σ) :
    (run (program ++ more) stack).value =
      (run program stack).value ++ (run more (leave program stack)).value := by
  induction program generalizing stack with
  | nil => rfl
  | cons step rest ih => exact congrArg (_ :: ·) (ih _)

theorem drop_run_append (program more : List Step) (stack : List σ) :
    (run (program ++ more) stack).value.drop program.length =
      (run more (leave program stack)).value := by
  rw [run_append, List.drop_left' (length_run program stack)]

theorem leave_append (program more : List Step) (stack : List σ) :
    leave (program ++ more) stack = leave more (leave program stack) :=
  List.foldl_append

theorem leave_nil (program : List Step) : leave program ([] : List σ) = [] := by
  induction program with
  | nil => rfl
  | cons step rest ih => exact ih

/-! ## Copies -/

/-- The height of a stack after a step. -/
def Step.height (step : Step) (height : Nat) : Nat :=
  match step with
  | .fork => height + 1
  | .drop => height - 1
  | _ => height

/-- The height of a stack after a program, unless the program takes the last
cursor of the stack away. -/
def heightAfter : List Step → Nat → Option Nat
  | [], height => some height
  | step :: rest, height =>
      if step.height height = 0 then none else heightAfter rest (step.height height)

/-- A step on a stack leaves alone whatever stands below the stack. -/
theorem perform_append (step : Step) (top : σ) (above below : List σ) :
    (step.perform (top :: above ++ below)).value.2 =
      (step.perform (top :: above)).value.2 ++ below := by
  cases step <;> rfl

theorem length_perform (step : Step) (top : σ) (above : List σ) :
    (step.perform (top :: above)).value.2.length = step.height (above.length + 1) := by
  cases step <;> rfl

theorem leave_of_heightAfter
    {program : List Step} {above : List σ} {height : Nat} (below : List σ)
    (habove : above ≠ []) (hheight : heightAfter program above.length = some height) :
    leave program (above ++ below) = leave program above ++ below ∧
      (leave program above).length = height := by
  induction program generalizing above with
  | nil => exact ⟨rfl, Option.some.inj hheight⟩
  | cons step rest ih =>
      obtain ⟨top, above, rfl⟩ := List.exists_cons_of_ne_nil habove
      have hlength := length_perform step top above
      rw [heightAfter, List.length_cons, ← hlength] at hheight
      split at hheight
      · contradiction
      · rename_i hpos
        have hrest := ih (List.ne_nil_of_length_pos (Nat.pos_of_ne_zero hpos)) hheight
        rw [← perform_append] at hrest
        exact hrest

/-- The program that runs another on a copy of the top and drops the copy. -/
def onCopy (program : List Step) : List Step :=
  .fork :: program ++ [.drop]

theorem leave_onCopy
    {program : List Step} (stack : List σ) (hcopy : heightAfter program 1 = some 1) :
    leave (onCopy program) stack = stack := by
  cases stack with
  | nil => exact leave_nil _
  | cons top below =>
      have hstack : leave (.fork :: program) (top :: below) =
          leave program ([top] ++ top :: below) := rfl
      obtain ⟨hbelow, hlength⟩ :=
        leave_of_heightAfter (top :: below) (List.cons_ne_nil top []) hcopy
      obtain ⟨copy, hleft⟩ := List.length_eq_one_iff.mp hlength
      rw [onCopy, leave_append, hstack, hbelow, hleft]
      rfl

/-! ## Spent cursors -/

/-- Once a request to the top of a stack of lists has no item to answer with, all
steps that stay with the top have none. -/
theorem runOnLists_of_spent
    {program : List Step} {stack : List (List ι)}
    (hspent : (Step.next.onLists stack).1 = .item none)
    (hstay : ∀ step ∈ program, step ≠ .fork ∧ step ≠ .drop) :
    runOnLists program stack = program.map Step.idle := by
  induction program with
  | nil => rfl
  | cons step rest ih =>
      obtain ⟨hfork, hdrop⟩ := hstay step List.mem_cons_self
      have hrest := ih fun other hother => hstay other (List.mem_cons_of_mem step hother)
      have hstep : step.onLists stack = (step.idle, stack) := by
        cases stack with
        | nil => rfl
        | cons top below =>
            have hnil : top = [] := by simpa [Step.onLists] using hspent
            subst hnil
            cases step <;> first | rfl | contradiction
      rw [runOnLists, hstep, hrest, List.map_cons]

/-! ## Cursors as lists -/

/-- A cursor cannot be told from a list by any program.  In particular, when it
has no item to answer with it has none later on either, and a copy of it that is
used and dropped again changes no later answer. -/
structure ActsAsList (state : σ) (items : List ι) : Prop where
  answers : ∀ program : List Step,
    (runOn program state).value = runOnLists program [items]
  spent : ∀ before later : List Step,
    (runOn (before ++ [.next]) state).value.getLast? = some (.item none) →
    (∀ step ∈ later, step ≠ .fork ∧ step ≠ .drop) →
    (runOn (before ++ later) state).value =
      (runOn before state).value ++ later.map Step.idle
  isolated : ∀ before copied later : List Step,
    heightAfter copied 1 = some 1 →
    (runOn (before ++ onCopy copied ++ later) state).value.drop
        (before ++ onCopy copied).length =
      (runOn (before ++ later) state).value.drop before.length

theorem Listing.actsAsList {view : σ → List ι} (hview : Listing view) (state : σ) :
    ActsAsList state (view state) where
  answers program := hview.run_value program [state]
  spent before later hspent hstay := by
    have hlast : (Step.next.perform (leave before [state])).value.1 = .item none := by
      have hanswers := run_append before [.next] [state]
      unfold runOn at hspent
      rw [hanswers] at hspent
      simpa [run] using hspent
    have hstep := congrArg Prod.fst (hview.perform_value .next (leave before [state]))
    unfold runOn
    rw [run_append, hview.run_value later,
      runOnLists_of_spent (hstep.symm.trans hlast) hstay]
  isolated before copied later hcopy := by
    unfold runOn
    rw [drop_run_append, drop_run_append, leave_append, leave_onCopy _ hcopy]

end BitmapFont.Cursor

namespace BitmapFont

/-- The rows of a source, the rows of a glyph and the pixels of a row are used by
any program of steps as the lists of them are. -/
theorem cursors_act_as_lists :
    (∀ (text : List Char) (policy : WidthPolicy),
      Cursor.ActsAsList (RowCursor.ofText text policy)
        ((sourceTokens text).map (·.pack policy))) ∧
    (∀ glyph : Glyph,
      Cursor.ActsAsList (GlyphCursor.ofGlyph glyph) (glyph.rows.map GlyphRow.mk)) ∧
    ∀ row : GlyphRow, Cursor.ActsAsList (PixelCursor.ofRow row) row.pixels := by
  refine ⟨?_, ?_, ?_⟩
  · intro text policy
    rw [← RowCursor.items_eq_sourceTokens, RowCursor.listing.items_eq]
    exact RowCursor.listing.actsAsList _
  · intro glyph
    exact GlyphCursor.listing.actsAsList (GlyphCursor.ofGlyph glyph)
  · intro row
    exact PixelCursor.listing.actsAsList (PixelCursor.ofRow row)

end BitmapFont
