import BitmapFont.Cursor

/-!
# Programs over cursors

A program is a list of steps that act on the top of a stack of cursors, the
head of a list.  A cursor is a value, so a fork is a copy and nothing done to it
reaches the cursor it was copied from.
-/

namespace BitmapFont.Cursor

inductive Step where
  | next
  | nth (skipped : Nat)
  | collect
  | count
  | last
  | fork
  | drop
  deriving Repr, DecidableEq

inductive Answer (ι : Type) where
  | item (item : Option ι)
  | items (items : List ι)
  | number (number : Nat)
  deriving Repr, DecidableEq

def Step.idle {ι : Type} : Step → Answer ι
  | .next | .nth _ | .last => .item none
  | .collect => .items []
  | .count | .fork | .drop => .number 0

def onTop {σ ι α : Type}
    (top : σ) (below : List σ) (use : σ → Logged (α × σ)) (answer : α → Answer ι) :
    Logged (Answer ι × List σ) :=
  let used := use top
  ⟨(answer used.value.1, used.value.2 :: below), used.events⟩

variable {σ ι : Type} [Cursor σ ι]

/-- Answers one step and leaves the stack as the step does.  A fork copies the
top, a drop takes it away, and both answer the height of the stack. -/
def Step.perform (step : Step) (stack : List σ) : Logged (Answer ι × List σ) :=
  match stack with
  | [] => pure (step.idle, [])
  | top :: below =>
      match step with
      | .next => onTop top below (Cursor.nth 0) .item
      | .nth skipped => onTop top below (Cursor.nth skipped) .item
      | .collect => onTop top below Cursor.collect .items
      | .count => onTop top below Cursor.count .number
      | .last => onTop top below Cursor.last .item
      | .fork => pure (.number (below.length + 2), top :: top :: below)
      | .drop => pure (.number below.length, below)

def run : List Step → List σ → Logged (List (Answer ι))
  | [], _ => pure []
  | step :: rest, stack => do
      let (answer, stack) ← step.perform stack
      let answers ← run rest stack
      pure (answer :: answers)

def runOn (program : List Step) (state : σ) : Logged (List (Answer ι)) :=
  run program [state]

end BitmapFont.Cursor
