import BitmapFont.Text.Pattern
import BitmapFont.Text.Pattern.Encoding
import BitmapFont.Text.Split

/-!
# The size of patterns

A pattern stands for two machines that read the bytes of a text, one forward and
one backward.  `Pattern.machineSize` is the number of bytes that such a machine
takes, so that patterns can be refused whose machines are too large.  Counted
repetitions make a copy of their part for each time, and so a short pattern may
stand for a large machine.
-/

namespace BitmapFont.Text

inductive Direction where
  | forward
  | backward
  deriving Repr, DecidableEq

def stateSize : Nat := 32

def totalSize (sizes : List Nat) : Nat :=
  sizes.foldl (· + ·) 0

def branchingSize (ways : Nat) : Nat :=
  stateSize + 8 * ways

def unionSize (ways : Nat) : Nat :=
  stateSize + 4 * ways

/-! ## Sets -/

def groupRows (rows : List ByteRow) : List (List ByteRow) :=
  (rows.filter (!·.isEmpty)).splitBy fun a b => a.head? == b.head?

/-- What is to be read behind the starts of some rows, the starts themselves
having at most so many intervals. -/
def restsOfRows : Nat → List ByteRow → List (List ByteRow)
  | 0, _ => []
  | length + 1, rows =>
      match groupRows rows with
      | [] => []
      | groups => rows :: groups.flatMap fun group => restsOfRows length (group.map List.tail)

def startCount : Nat → List ByteRow → Nat
  | 0, _ => 0
  | length + 1, rows =>
      totalSize ((groupRows rows).map fun group => 1 + startCount length (group.map List.tail))

/-- The size of a machine for one character of a set.  A forward machine shares
what is to be read behind different starts, a backward machine the starts. -/
def CharSet.machineSize (direction : Direction) (set : CharSet) : Nat :=
  if set.isBasic then
    stateSize + branchingSize set.intervals.length
  else
    let rows := set.encodings
    match direction with
    | .forward =>
        let rests := (restsOfRows 4 rows).eraseDups
        stateSize + totalSize (rests.map fun rest => branchingSize (groupRows rest).length)
    | .backward =>
        stateSize + unionSize rows.length + stateSize * startCount 4 rows

/-! ## Texts as alternatives -/

/-- The size of a tree of texts without the state at its end.  Texts that begin
alike share their states, unless one of them ends in between: the texts behind
it are of lower rank.  No text is longer than the given length. -/
def textTreeSize : Nat → List (List UInt8) → Nat
  | 0, _ => 0
  | length + 1, texts =>
      let texts :=
        match texts with
        | [] :: rest => [] :: rest.dropWhile List.isEmpty
        | texts => texts
      if texts.all List.isEmpty then
        0
      else
        let ranks := (texts.splitBy fun a b => a.isEmpty == b.isEmpty).filter fun rank =>
          !rank.all List.isEmpty
        let rankSizes := ranks.map fun rank =>
          let firsts := (rank.filterMap List.head?).eraseDups
          let below := firsts.map fun first =>
            textTreeSize length ((rank.filter (·.head? == some first)).map List.tail)
          (if firsts.length = 1 then stateSize else branchingSize firsts.length) + totalSize below
        unionSize (ranks.length + texts.count []) + totalSize rankSizes

def textsSize (direction : Direction) (texts : List (List Char)) : Nat :=
  let encoded := texts.map fun text =>
    let bytes := text.flatMap String.utf8EncodeChar
    match direction with
    | .forward => bytes
    | .backward => bytes.reverse
  let longest := (encoded.map List.length).foldl max 0
  stateSize + textTreeSize (longest + 1) encoded

/-! ## Patterns -/

namespace Pattern

def texts? (patterns : List Pattern) : Option (List (List Char)) :=
  patterns.mapM fun
    | text chars => some chars
    | _ => none

/-- The number of characters of the shortest stretch that a pattern describes, if
none of its parts rules out all stretches. -/
def shortest? : Pattern → Option Nat
  | empty | place _ => some 0
  | text chars => some chars.length
  | one set => if set.isEmpty then none else some 1
  | captured _ pattern => pattern.shortest?
  | sequence first second => do return (← first.shortest?) + (← second.shortest?)
  | choice first second => do return min (← first.shortest?) (← second.shortest?)
  | repeated pattern least _ => do return least * (← pattern.shortest?)

/-- Whether all stretches that a pattern describes are at such a place from their
start on. -/
def startsAt (assertion : Assertion) : Pattern → Bool
  | empty | text _ | one _ => false
  | place other => other = assertion
  | captured _ pattern => pattern.startsAt assertion
  | sequence first second =>
      first.startsAt assertion || (first.isBare && second.startsAt assertion)
  | choice first second => first.startsAt assertion && second.startsAt assertion
  | repeated pattern least _ => 0 < least && pattern.startsAt assertion

/-- Whether all stretches that a pattern describes are at such a place up to their
end. -/
def stopsAt (assertion : Assertion) : Pattern → Bool
  | empty | text _ | one _ => false
  | place other => other = assertion
  | captured _ pattern => pattern.stopsAt assertion
  | sequence first second =>
      second.stopsAt assertion || (second.isBare && first.stopsAt assertion)
  | choice first second => first.stopsAt assertion && second.stopsAt assertion
  | repeated pattern least _ => 0 < least && pattern.stopsAt assertion

def asksScript : Pattern → Bool
  | empty | text _ | one _ => false
  | place assertion => assertion = .scriptWord
  | captured _ pattern | repeated pattern _ _ => pattern.asksScript
  | sequence first second | choice first second => first.asksScript || second.asksScript

def repeatedSize (size : Nat) (neverBare : Bool) : Nat → Option Nat → Nat
  | 0, none => if neverBare then size + unionSize 2 else size + 2 * unionSize 2 + stateSize
  | least, none => least * size + unionSize 2
  | 0, some 1 => unionSize 2 + size + stateSize
  | least, some most =>
      if least = most then least * size
      else
        (if least = 0 then stateSize else least * size) + stateSize +
          (most - least) * (size + unionSize 2)

/-- The size of a machine for a pattern, or of the machines for its alternatives
if it is the rest of some alternatives. -/
def size (direction : Direction) (isRest : Bool) : Pattern → Nat
  | empty | place _ => stateSize
  | text chars => stateSize * totalSize (chars.map Char.utf8Size)
  | one set => set.machineSize direction
  | captured _ pattern =>
      (if direction = .forward then 2 * stateSize else 0) + pattern.size direction false
  | sequence first second => first.size direction false + second.size direction false
  | choice first second =>
      let alternatives := first.size direction false + second.size direction true
      if isRest then
        alternatives
      else
        match texts? (choice first second).branches with
        | some texts => textsSize direction texts
        | none => unionSize (choice first second).branches.length + stateSize + alternatives
  | repeated pattern least most =>
      repeatedSize (pattern.size direction false) (pattern.shortest?.any (0 < ·)) least most

/-- The size of the part of a machine that looks for the place to begin at, which
is not needed if there is only one. -/
def searchSize (isFixed : Bool) : Nat :=
  if isFixed then stateSize else stateSize + branchingSize 1 + unionSize 2

def machineSize (pattern : Pattern) (direction : Direction) : Nat :=
  let inner := pattern.size direction false + stateSize
  match direction with
  | .forward => searchSize (pattern.startsAt .textStart) + 2 * stateSize + inner
  | .backward => searchSize (pattern.stopsAt .textEnd) + inner

end Pattern

end BitmapFont.Text
