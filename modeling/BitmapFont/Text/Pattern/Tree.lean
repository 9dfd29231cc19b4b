import BitmapFont.Text.Pattern.CharSet
import BitmapFont.Text.Pattern.Fault

/-!
# The texts of patterns as trees

What the text of a pattern writes, part by part, each with its place in the
text.  What a part means hangs on the flags that are set where it stands.
`PatternTree.check` refuses trees that are nested too deep.
-/

namespace BitmapFont.Text

inductive PatternFlag where
  | anyCase
  /-- `^` and `$` are about lines. -/
  | byLine
  | dotAll
  /-- Carriage returns break lines too. -/
  | returns
  /-- Repetitions prefer to be short, which has no say in whether a text
  matches. -/
  | short
  /-- Characters count, not bytes. -/
  | characters
  /-- White space and comments are skipped. -/
  | spaced
  deriving Repr, DecidableEq

/-- Flags, and whether each is set or cleared. -/
abbrev FlagChanges := List (PatternFlag × Bool)

inductive Shorthand where
  | digits
  | spaces
  | wordCharacters
  deriving Repr, DecidableEq

inductive CharItem where
  /-- A character, perhaps written as a byte. -/
  | char (c : Char) (asByte : Bool)
  | shorthand (shorthand : Shorthand) (negated : Bool)
  | property (name : List Char)
  deriving Repr, DecidableEq

inductive PlaceItem where
  | lineStart
  | lineEnd
  | textStart
  | textEnd
  | wordBoundary
  | noWordBoundary
  | wordStart
  | wordEnd
  | wordStartHalf
  | wordEndHalf
  deriving Repr, DecidableEq

inductive PatternItem where
  | one (item : CharItem)
  | dot
  | place (item : PlaceItem)
  deriving Repr, DecidableEq

structure WrittenChar where
  char : Char
  asByte : Bool
  span : Span
  deriving Repr, DecidableEq

inductive SetOperation where
  | common
  | difference
  | symmetricDifference
  deriving Repr, DecidableEq

inductive SetTree where
  | item (span : Span) (item : CharItem)
  | interval (low high : WrittenChar)
  | named (span : Span) (set : CharSet) (negated : Bool)
  | bracketed (span : Span) (negated : Bool) (inner : SetTree)
  | union (span : Span) (items : List SetTree)
  | operation (span : Span) (operation : SetOperation) (first second : SetTree)
  deriving Repr

inductive PatternTree where
  | item (span : Span) (item : PatternItem)
  | bracketed (span : Span) (negated : Bool) (inner : SetTree)
  | flags (span : Span) (changes : FlagChanges)
  | repeated (span : Span) (inner : PatternTree) (least : Nat) (most : Option Nat)
  | captured (span : Span) (number : Nat) (inner : PatternTree)
  | group (span : Span) (changes : FlagChanges) (inner : PatternTree)
  | row (span : Span) (parts : List PatternTree)
  | choice (span : Span) (branches : List PatternTree)
  deriving Repr

namespace SetTree

def span : SetTree → Span
  | item span _ | named span _ _ | bracketed span _ _ | union span _ | operation span _ _ _ => span
  | interval low high => ⟨low.span.start, high.span.stop⟩

def ofItems (place : Span) : List SetTree → SetTree
  | [] => union place []
  | [only] => only
  | first :: rest => union ⟨first.span.start, (rest.getLastD first).span.stop⟩ (first :: rest)

end SetTree

namespace PatternTree

def span : PatternTree → Span
  | item span _ | bracketed span _ _ | flags span _ | repeated span _ _ _ | captured span _ _
  | group span _ _ | row span _ | choice span _ => span

def ofParts (place : Span) : List PatternTree → PatternTree
  | [only] => only
  | parts => row place parts

end PatternTree

def deeper (span : Span) (depth : Nat) : Except PatternFault Nat :=
  if depth < maxNesting then .ok (depth + 1)
  else .error { kind := .nestedTooDeep, span }

mutual

def SetTree.check (depth : Nat) : SetTree → Except PatternFault Unit
  | .item _ _ | .interval _ _ | .named _ _ _ | .union _ [] => .ok ()
  | .bracketed span _ inner => do inner.check (← deeper span depth)
  | .union span items => do SetTree.checkAll (← deeper span depth) items
  | .operation span _ first second => do
      let depth ← deeper span depth
      first.check depth
      second.check depth

def SetTree.checkAll (depth : Nat) : List SetTree → Except PatternFault Unit
  | [] => .ok ()
  | first :: rest => do
      first.check depth
      SetTree.checkAll depth rest

end

mutual

def PatternTree.check (depth : Nat) : PatternTree → Except PatternFault Unit
  | .item _ _ | .flags _ _ | .row _ [] => .ok ()
  | .bracketed span _ inner => do inner.check (← deeper span depth)
  | .repeated span inner _ _ | .captured span _ inner | .group span _ inner => do
      inner.check (← deeper span depth)
  | .row span parts => do PatternTree.checkAll (← deeper span depth) parts
  | .choice span branches => do PatternTree.checkAll (← deeper span depth) branches

def PatternTree.checkAll (depth : Nat) : List PatternTree → Except PatternFault Unit
  | [] => .ok ()
  | first :: rest => do
      first.check depth
      PatternTree.checkAll depth rest

end

end BitmapFont.Text
