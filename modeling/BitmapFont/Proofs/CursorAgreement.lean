import BitmapFont.Proofs.CursorScans

/-!
# Cursors that cannot be told apart

A cursor that works through entries is determined by those that are pending.  So two
cursors with the same pending entries agree in every use: whatever program is run on
them, they give the same answers and report the same events, and so do their copies.
What they are made of besides is never seen.

Every use of a cursor is described by what it does to the pending entries.  One request
takes them through the next item, as `through` has it, and the traversals take them all.
-/

namespace BitmapFont.Cursor

variable {σ ι α β : Type} [Cursor σ ι]

/-! ## Agreement -/

/-- Two uses agree when they give the same, report the same and leave behind what looks
the same. -/
structure Agree {β τ ν : Type} (view : τ → ν) (used others : Logged (β × τ)) : Prop where
  given : used.value.1 = others.value.1
  events : used.events = others.events
  left : view used.value.2 = view others.value.2

theorem onTop_agree
    {σ α β ι : Type} {pending : σ → List α} {state other : σ} {below others : List σ}
    {used : σ → Logged (β × σ)} (answer : β → Answer ι)
    (htop : Agree pending (used state) (used other))
    (hbelow : below.map pending = others.map pending) :
    Agree (List.map pending) (onTop state below used answer) (onTop other others used answer) where
  given := congrArg answer htop.given
  events := htop.events
  left := by simp only [onTop, List.map_cons, htop.left, hbelow]

namespace Scan

variable {pending : σ → List α} {item? : α → Option ι} {record? : α → Option Event}

/-! ## What a use leaves behind -/

/-- A request for a later item passes the entries through that item. -/
theorem nthFrom_passed
    (hscan : Scan pending item? record?) (skipped : Nat) (state : σ) (log : Array Event) :
    let passed := through (hasItem item?) (skipped + 1) (pending state)
    (nthFrom skipped state log).events = log.toList ++ passed.filterMap record? ∧
      pending state = passed ++ pending (nthFrom skipped state log).value.2 := by
  fun_induction nthFrom skipped state log with
  | case1 skipped state log events rest hnext =>
      obtain ⟨hskipped, hspent, rfl⟩ := hscan.ended_of_next hnext
      simp [through_skipped skipped hskipped, hspent]
  | case2 state log item events rest hnext =>
      obtain ⟨passed, entry, hsplit, hskipped, hhas, rfl⟩ := hscan.found_of_next hnext
      rw [hsplit, through_passed 0 _ hskipped hhas]
      simp
  | case3 state log item events rest hnext fewer ih =>
      obtain ⟨passed, entry, hsplit, hskipped, hhas, rfl⟩ := hscan.found_of_next hnext
      obtain ⟨hevents, hrest⟩ := ih
      rw [hsplit, through_passed (fewer + 1) _ hskipped hhas]
      refine ⟨?_, ?_⟩
      · rw [hevents, Array.toList_appendList, List.append_assoc, ← List.filterMap_append]
      · rw [List.append_assoc, ← hrest, List.append_cons]

theorem foldFrom_spent
    (hscan : Scan pending item? record?) (combine : β → ι → β) (state : σ) (result : β)
    (log : Array Event) :
    pending (foldFrom combine state result log).value.2 = [] := by
  fun_induction foldFrom combine state result log with
  | case1 state result log events rest hnext => exact (hscan.ended_of_next hnext).2.1
  | case2 state result log item events rest hnext ih => exact ih

/-! ## Cursors with the same pending entries -/

variable {state other : σ}

theorem nth_agree
    (hscan : Scan pending item? record?) (hsame : pending state = pending other)
    (skipped : Nat) : Agree pending (nth skipped state) (nth skipped other) := by
  obtain ⟨hevents, hsplit⟩ := hscan.nthFrom_passed skipped state #[]
  obtain ⟨hothers, hsplit'⟩ := hscan.nthFrom_passed skipped other #[]
  rw [← hsame] at hothers hsplit'
  constructor
  · unfold nth
    rw [(hscan.listing.nthFrom_value skipped state #[]).1,
      (hscan.listing.nthFrom_value skipped other #[]).1, hsame]
  · unfold nth
    rw [hevents, hothers]
  · exact List.append_cancel_left (hsplit.symm.trans hsplit')

theorem fold_agree
    (hscan : Scan pending item? record?) (hsame : pending state = pending other)
    (combine : β → ι → β) (start : β) :
    Agree pending (fold combine start state) (fold combine start other) := by
  constructor
  · rw [hscan.listing.fold_value, hscan.listing.fold_value, hsame]
  · unfold fold
    rw [hscan.foldFrom_events, hscan.foldFrom_events, hsame]
  · unfold fold
    rw [hscan.foldFrom_spent, hscan.foldFrom_spent]

theorem collect_agree
    (hscan : Scan pending item? record?) (hsame : pending state = pending other) :
    Agree pending (collect state) (collect other) := by
  have hfold := hscan.fold_agree hsame Array.push #[]
  exact ⟨congrArg Array.toList hfold.given, hfold.events, hfold.left⟩

/-- A step does the same to stacks of the same pending entries. -/
theorem perform_agree
    (hscan : Scan pending item? record?) (step : Step) {stack others : List σ}
    (hsame : stack.map pending = others.map pending) :
    Agree (List.map pending) (step.perform stack) (step.perform others) := by
  cases stack with
  | nil =>
      obtain rfl : others = [] := List.map_eq_nil_iff.mp hsame.symm
      exact ⟨rfl, rfl, rfl⟩
  | cons top below =>
      cases others with
      | nil => simp at hsame
      | cons top' below' =>
          obtain ⟨htop, hbelow⟩ := List.cons.inj hsame
          have hheight : below.length = below'.length := by
            simpa using congrArg List.length hbelow
          cases step with
          | next => exact onTop_agree .item (hscan.nth_agree htop 0) hbelow
          | nth skipped => exact onTop_agree .item (hscan.nth_agree htop skipped) hbelow
          | collect => exact onTop_agree .items (hscan.collect_agree htop) hbelow
          | count => exact onTop_agree .number (hscan.fold_agree htop _ 0) hbelow
          | last => exact onTop_agree .item (hscan.fold_agree htop _ none) hbelow
          | fork => constructor <;> simp [Step.perform, hheight, htop, hbelow]
          | drop => constructor <;> simp [Step.perform, hheight, hbelow]

/-- A program cannot tell stacks of the same pending entries apart, neither by its
answers nor by what is reported. -/
theorem run_agree
    (hscan : Scan pending item? record?) (program : List Step) {stack others : List σ}
    (hsame : stack.map pending = others.map pending) :
    run program stack = run program others := by
  induction program generalizing stack others with
  | nil => rfl
  | cons step rest ih =>
      have hstep := hscan.perform_agree step hsame
      have hrest := ih hstep.left
      simp only [run, bind, Logged.bind]
      rw [hstep.given, hstep.events, hrest]

end Scan

end BitmapFont.Cursor
