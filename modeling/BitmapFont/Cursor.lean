import BitmapFont.Log

/-!
# Cursors

A cursor hands out items one at a time and may report events as it does.  It
knows a bound on the items still to come, so every use of it ends.  All the
ways of using one are built on two traversals: `fold` goes to the end, `feed`
stops at the first failure.
-/

namespace BitmapFont

/-- What one request to a cursor gives: the item, unless there is none left,
the events reported on the way and the cursor afterwards. -/
structure Pull (σ ι : Type) where
  item : Option ι
  events : List Event
  rest : σ

class Cursor (σ : Type) (ι : outParam Type) where
  next : σ → Pull σ ι
  /-- A bound on the number of items still to come. -/
  size : σ → Nat
  /-- Handing out an item lowers the bound. -/
  size_next :
    ∀ (state : σ) (item : ι),
      (next state).item = some item → size (next state).rest < size state

namespace Cursor

variable {σ ι β ε : Type} [Cursor σ ι]

theorem size_lt_of_next
    {state rest : σ} {item : ι} {events : List Event}
    (hnext : next state = ⟨some item, events, rest⟩) :
    size rest < size state := by
  have hlt := size_next state item (by rw [hnext])
  rwa [hnext] at hlt

def foldFrom
    (combine : β → ι → β) (state : σ) (result : β) (log : Array Event) :
    Logged (β × σ) :=
  match _hnext : next state with
  | ⟨none, events, rest⟩ => ⟨(result, rest), (log ++ events).toList⟩
  | ⟨some item, events, rest⟩ => foldFrom combine rest (combine result item) (log ++ events)
termination_by size state
decreasing_by exact size_lt_of_next _hnext

def fold (combine : β → ι → β) (start : β) (state : σ) : Logged (β × σ) :=
  foldFrom combine state start #[]

/-- Combines items until there are none left or one is refused; the refusal
carries what there is to say about it. -/
def feedFrom
    (combine : β → ι → Except ε β) (state : σ) (result : β) (log : Array Event) :
    Logged (Except ε β) :=
  match _hnext : next state with
  | ⟨none, events, _⟩ => ⟨.ok result, (log ++ events).toList⟩
  | ⟨some item, events, rest⟩ =>
      match combine result item with
      | .ok result => feedFrom combine rest result (log ++ events)
      | .error refusal => ⟨.error refusal, (log ++ events).toList⟩
termination_by size state
decreasing_by exact size_lt_of_next _hnext

def feed (combine : β → ι → Except ε β) (start : β) (state : σ) : Logged (Except ε β) :=
  feedFrom combine state start #[]

def collect (state : σ) : Logged (List ι × σ) :=
  let done := fold Array.push #[] state
  ⟨(done.value.1.toList, done.value.2), done.events⟩

def count (state : σ) : Logged (Nat × σ) :=
  fold (fun counted _ => counted + 1) 0 state

def last (state : σ) : Logged (Option ι × σ) :=
  fold (fun _ item => some item) none state

/-- Discards so many items and hands out the one behind them; where the items
do not suffice there is none. -/
def nthFrom (skipped : Nat) (state : σ) (log : Array Event) : Logged (Option ι × σ) :=
  match next state with
  | ⟨none, events, rest⟩ => ⟨(none, rest), (log ++ events).toList⟩
  | ⟨some item, events, rest⟩ =>
      match skipped with
      | 0 => ⟨(some item, rest), (log ++ events).toList⟩
      | fewer + 1 => nthFrom fewer rest (log ++ events)

def nth (skipped : Nat) (state : σ) : Logged (Option ι × σ) :=
  nthFrom skipped state #[]

end Cursor

end BitmapFont
