/-!
# Steps that may fail

What a sequence of steps keeps as long as none of them fails.  A relation between the
state and the steps that are still to come may be kept too.
-/

namespace BitmapFont

section Results

variable {ε α β : Type}

theorem bind_of_eq_ok
    {first : Except ε α} {value : α}
    (next : α → Except ε β) (hfirst : first = .ok value) :
    (first >>= next) = next value := by
  rw [hfirst]
  rfl

theorem ok_of_bind_eq_ok
    {first : Except ε α} {next : α → Except ε β} {value : β}
    (hbind : first >>= next = .ok value) :
    ∃ middle, first = .ok middle ∧ next middle = .ok value := by
  cases first with
  | error error => contradiction
  | ok middle => exact ⟨middle, rfl, hbind⟩

theorem ok_of_map_eq_ok
    {first : Except ε α} {f : α → β} {value : β} (hmap : first.map f = .ok value) :
    ∃ middle, first = .ok middle ∧ f middle = value := by
  cases first with
  | error error => contradiction
  | ok middle => exact ⟨middle, rfl, Except.ok.inj hmap⟩

theorem error_of_map_eq_error
    {first : Except ε α} {f : α → β} {error : ε} (hmap : first.map f = .error error) :
    first = .error error := by
  cases first with
  | error other => exact congrArg Except.error (Except.error.inj hmap)
  | ok middle => contradiction

/-- A change made before two steps comes out behind them if it comes out behind each. -/
theorem bind_map
    {γ δ : Type} {first : Except ε α} {change : α → β} {output : γ → δ}
    {next : α → Except ε γ} {other : β → Except ε δ}
    (hnext : ∀ value, first = .ok value → other (change value) = (next value).map output) :
    first.map change >>= other = (first >>= next).map output := by
  cases first with
  | error error => rfl
  | ok value => exact hnext value rfl

end Results

section Folds

variable {ε State Item : Type} {step : State → Item → Except ε State}
  (Invariant : List Item → State → Prop)

theorem foldlM_preserves
    (hstep : ∀ item rest state next,
      Invariant (item :: rest) state → step state item = .ok next → Invariant rest next)
    {items : List Item} {state last : State}
    (hstate : Invariant items state) (hlast : items.foldlM step state = .ok last) :
    Invariant [] last := by
  induction items generalizing state with
  | nil =>
      obtain rfl := Except.ok.inj hlast
      exact hstate
  | cons item rest ih =>
      rw [List.foldlM_cons] at hlast
      obtain ⟨next, hnext, hlast⟩ := ok_of_bind_eq_ok hlast
      exact ih (hstep item rest state next hstate hnext) hlast

theorem foldlM_map
    {change : State → State}
    (hstep : ∀ item rest state next,
      Invariant (item :: rest) state → step state item = .ok next → Invariant rest next)
    (hchange : ∀ item rest state,
      Invariant (item :: rest) state → step (change state) item = (step state item).map change)
    {items : List Item} {state : State} (hstate : Invariant items state) :
    items.foldlM step (change state) = (items.foldlM step state).map change := by
  induction items generalizing state with
  | nil => rfl
  | cons item rest ih =>
      rw [List.foldlM_cons, List.foldlM_cons, hchange item rest state hstate]
      exact bind_map fun next hnext => ih (hstep item rest state next hstate hnext)

end Folds

end BitmapFont
