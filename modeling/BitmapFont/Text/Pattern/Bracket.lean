import BitmapFont.Text.Pattern.Escape

/-!
# Sets in brackets

A set in brackets lists characters, intervals and other sets.  Sets nest, and
two of them may be joined by an operation.  The sets still open around the
place reached are kept on a stack, the innermost first.
-/

namespace BitmapFont.Text

open ReadPattern

/-- Items of a set, the last first. -/
structure SetItems where
  start : Nat
  items : List SetTree := []
  deriving Repr

namespace SetItems

def add (read : SetItems) (item : SetTree) : SetItems :=
  { read with items := item :: read.items }

def tree (read : SetItems) : SetTree :=
  .ofItems ⟨read.start, read.start⟩ read.items.reverse

end SetItems

structure OpenSet where
  span : Span
  negated : Bool
  outer : SetItems
  /-- An operation that waits for its second set. -/
  waiting : Option (SetOperation × SetTree) := none
  deriving Repr

def OpenSet.join (opened : OpenSet) (last : SetTree) : SetTree :=
  match opened.waiting with
  | none => last
  | some (operation, first) =>
      .operation ⟨first.span.start, last.span.stop⟩ operation first last

def readHyphens (opening : Nat) : Nat → SetItems → ReadPattern SetItems
  | 0, read => pure read
  | turns + 1, read => do
      if (← peek?) == some '-' then
        let here ← place
        if (← advance).isNone then fail .classUnclosed opening opening
        readHyphens opening turns (read.add (.item ⟨here, here + 1⟩ (.char '-' false)))
      else
        pure read

/-- Reads the start of a set, up to the first character that may close it, and
gives what the set holds by then. -/
def openSet (outer : SetItems) : ReadPattern (OpenSet × SetItems) := do
  let opening ← place
  let first ← advance
  if first.isNone then failFrom .classUnclosed opening
  let negated := first == some '^'
  if negated then
    if (← advance).isNone then failFrom .classUnclosed opening
  let mut held ← readHyphens opening (← fuel) { start := ← place }
  if held.items.isEmpty && (← peek?) == some ']' then
    let here ← place
    held := held.add (.item ⟨here, here + 1⟩ (.char ']' false))
    if (← advance).isNone then failFrom .classUnclosed opening
  pure ({ span := ⟨opening, ← place⟩, negated, outer }, held)

/-- Reads the name of a set of the first 128 characters, as in `[:alpha:]`; what
is no such name is left where it stands. -/
def readNamedSet? : ReadPattern (Option SetTree) := do
  let before ← get
  if ← bumpIf "[:" then
    let negated ← bumpIf "^"
    let name := (← get).rest.takeWhile (· != ':')
    skip name.length
    if ← bumpIf ":]" then
      if let some set := CharSet.named? (String.ofList name) then
        return some (.named ⟨before.place, ← place⟩ set negated)
  set before
  pure none

def readSetItem : ReadPattern PlacedItem := do
  let start ← place
  match ← peek? with
  | some '\\' => readEscape
  | some c => do
      bump
      pure ⟨.one (.char c false), start, start + 1⟩
  | none => failHere .classUnclosed

def PlacedItem.boundary (placed : PlacedItem) : ReadPattern WrittenChar :=
  match placed.item with
  | .one (.char char asByte) => pure { char, asByte, span := placed.span }
  | _ => fail .classRangeBoundary placed.span.start placed.span.stop

def PlacedItem.inSet (placed : PlacedItem) : ReadPattern SetTree :=
  match placed.item with
  | .one item => pure (.item placed.span item)
  | _ => fail .classEscape placed.span.start placed.span.stop

def readInterval (opened : OpenSet) : ReadPattern SetTree := do
  let unclosed : ReadPattern SetTree := fail .classUnclosed opened.span.start opened.span.stop
  let first ← readSetItem
  skipSpace
  match ← peek? with
  | none => unclosed
  | some c =>
      let behind ← second?
      if c != '-' || behind == some ']' || behind == some '-' then
        first.inSet
      else if (← advance).isNone then
        unclosed
      else
        let last ← readSetItem
        let low ← first.boundary
        let high ← last.boundary
        if low.char ≤ high.char then pure (.interval low high)
        else fail .classRange first.span.start last.span.stop

/-- The operation that is written here, if one is. -/
def readOperation? : ReadPattern (Option SetOperation) := do
  if ← bumpIf "&&" then pure (some .common)
  else if ← bumpIf "--" then pure (some .difference)
  else if ← bumpIf "~~" then pure (some .symmetricDifference)
  else pure none

/-- Reads on in a bracketed set, of which the innermost open part and those
around it are given, until the outermost part is closed. -/
def readSet : Nat → OpenSet → List OpenSet → SetItems → ReadPattern PatternTree
  | 0, opened, _, _ => fail .classUnclosed opened.span.start opened.span.stop
  | turns + 1, opened, around, held => do
      skipSpace
      match ← peek? with
      | none => fail .classUnclosed opened.span.start opened.span.stop
      | some '[' => do
          match ← readNamedSet? with
          | some set => readSet turns opened around (held.add set)
          | none => do
              let (inner, start) ← openSet held
              readSet turns inner (opened :: around) start
      | some ']' => do
          bump
          let span := ⟨opened.span.start, ← place⟩
          let inner := opened.join held.tree
          match around with
          | [] => pure (.bracketed span opened.negated inner)
          | next :: around =>
              readSet turns next around (opened.outer.add (.bracketed span opened.negated inner))
      | some _ => do
          match ← readOperation? with
          | some operation =>
              let waiting := some (operation, opened.join held.tree)
              readSet turns { opened with waiting } around { start := ← place }
          | none => readSet turns opened around (held.add (← readInterval opened))

def readBracketed : ReadPattern PatternTree := do
  let turns ← fuel
  let (opened, held) ← openSet { start := ← place }
  readSet turns opened [] held

end BitmapFont.Text
