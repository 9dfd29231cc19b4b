import BitmapFont.Text.Alphabetic
import BitmapFont.Text.Pattern.Bracket

/-!
# Reading patterns

`PatternTree.ofText` reads the text of a pattern as a tree, or says what is wrong
with it.  The text is read once from left to right.  The groups still open
around the place reached are kept on a stack, the innermost first.

How often a repetition prefers to repeat cannot be seen in whether a text
matches, so the marks for it are read and forgotten.
-/

namespace BitmapFont.Text

open ReadPattern

/-- The alternatives of a group: those that are complete, and the parts of the
one that is not, both the last first. -/
structure OpenBranches where
  /-- Where the first alternative begins. -/
  start : Nat
  complete : List PatternTree := []
  partStart : Nat := start
  parts : List PatternTree := []
  deriving Repr

namespace OpenBranches

def current (branches : OpenBranches) (stop : Nat) : PatternTree :=
  .ofParts ⟨branches.partStart, stop⟩ branches.parts.reverse

def split (branches : OpenBranches) (stop : Nat) : OpenBranches :=
  { branches with
    complete := branches.current stop :: branches.complete
    partStart := stop + 1
    parts := [] }

def close (branches : OpenBranches) (stop : Nat) : PatternTree :=
  match branches.complete with
  | [] => branches.current stop
  | complete => .choice ⟨branches.start, stop⟩ (branches.current stop :: complete).reverse

def add (branches : OpenBranches) (part : PatternTree) : OpenBranches :=
  { branches with parts := part :: branches.parts }

end OpenBranches

inductive GroupKind where
  | captured (number : Nat)
  | plain (changes : FlagChanges)
  deriving Repr, DecidableEq

inductive GroupStart where
  | group (kind : GroupKind)
  | flags (changes : FlagChanges)
  deriving Repr, DecidableEq

structure OpenGroup where
  start : Nat
  kind : GroupKind
  spaced : Bool
  outer : OpenBranches
  deriving Repr

def OpenGroup.close (opened : OpenGroup) (inner : PatternTree) (stop : Nat) : PatternTree :=
  match opened.kind with
  | .captured number => .captured ⟨opened.start, stop⟩ number inner
  | .plain changes => .group ⟨opened.start, stop⟩ changes inner

def PatternFlag.ofChar? (c : Char) : Option PatternFlag :=
  match c with
  | 'i' => some .anyCase
  | 'm' => some .byLine
  | 's' => some .dotAll
  | 'R' => some .returns
  | 'U' => some .short
  | 'u' => some .characters
  | 'x' => some .spaced
  | _ => none

/-- Reads flags up to the colon or parenthesis behind them.  The signs read so far
are given with their places, the last first. -/
def readFlags : Nat → List (Char × Nat) → FlagChanges → ReadPattern (Nat × FlagChanges)
  | 0, _, _ => failHere .flagIncomplete
  | turns + 1, read, changes => do
      match ← peek? with
      | none => failHere .flagIncomplete
      | some c => do
          let here ← place
          if c = ':' || c = ')' then
            match read with
            | ('-', start) :: _ => fail .flagNegationDangling start (start + 1)
            | _ => pure (read.length, changes.reverse)
          else
            let negated := read.any (·.1 == '-')
            let more ← match PatternFlag.ofChar? c with
              | some flag => pure [(flag, !negated)]
              | none => if c = '-' then pure [] else failAt .flagUnknown
            if let some (_, start) := read.find? (·.1 == c) then
              throw {
                kind := if c = '-' then .flagNegationRepeated else .flagRepeated
                span := ⟨here, here + 1⟩
                earlier := some ⟨start, start + 1⟩ }
            bump
            if (← peek?).isNone then failHere .flagIncomplete
            readFlags turns ((c, here) :: read) (more ++ changes)

def isNameCharacter (first : Bool) (c : Char) : Bool :=
  c == '_' || isAlphabetic c ||
    (!first && (isNumeric c || c == '.' || c == '[' || c == ']'))

def readName : ReadPattern Unit := do
  let start ← place
  let text := (← get).rest
  if text.isEmpty then failHere .nameUnclosed
  let name :=
    match text with
    | c :: rest =>
        if isNameCharacter true c then c :: rest.takeWhile (isNameCharacter false) else []
    | [] => []
  skip name.length
  match ← peek? with
  | none => failHere .nameUnclosed
  | some '>' => do
      bump
      if name.isEmpty then fail .nameEmpty start start
      let span : Span := ⟨start, start + name.length⟩
      match (← get).names.find? (·.1 == name) with
      | some (_, earlier) => throw { kind := .nameRepeated, span, earlier := some earlier }
      | none => modify fun reader => { reader with names := (name, span) :: reader.names }
  | some _ => failAt .nameCharacter

def countGroup : ReadPattern GroupStart := do
  let number := (← get).groups
  modify fun reader => { reader with groups := number + 1 }
  pure (.group (.captured number))

def readGroupStart : ReadPattern GroupStart := do
  let start ← place
  let _ ← advance
  for mark in ["?=", "?!", "?<=", "?<!"] do
    if ← bumpIf mark then failFrom .lookAround start
  let inner ← place
  if ← bumpIf "?P<" then
    readName
    countGroup
  else if ← bumpIf "?<" then
    readName
    countGroup
  else if ← bumpIf "?" then
    if (← peek?).isNone then fail .groupUnclosed start (start + 1)
    let (count, changes) ← readFlags (← fuel) [] []
    let closed := (← peek?) == some ')'
    bump
    if closed && count = 0 then fail .repetitionMissing inner inner
    pure (if closed then .flags changes else .group (.plain changes))
  else
    countGroup

def maxRepetitions : Nat := 4294967295

def readCount : ReadPattern (Except PatternFault Nat) := do
  skip ((← get).rest.takeWhile isWhiteSpace).length
  let start ← place
  let digits ← takeWhile Char.isDigit (← fuel)
  let span : Span := ⟨start, ← place⟩
  let _ ← takeWhile isWhiteSpace (← fuel)
  let number := numberOf 10 digits
  if digits.isEmpty then pure (.error { kind := .countEmpty, span })
  else if number ≤ maxRepetitions then pure (.ok number)
  else pure (.error { kind := .decimalTooLarge, span })

def takeRepeated (branches : OpenBranches) : ReadPattern (PatternTree × OpenBranches) :=
  match branches.parts with
  | [] | .flags _ _ :: _ => failHere .repetitionMissing
  | part :: parts => pure (part, { branches with parts })

def repeatedHere (part : PatternTree) (least : Nat) (most : Option Nat) :
    ReadPattern PatternTree := do
  pure (.repeated ⟨part.span.start, ← place⟩ part least most)

def readCounted (branches : OpenBranches) : ReadPattern OpenBranches := do
  let start ← place
  let (part, branches) ← takeRepeated branches
  if (← advance).isNone then failFrom .countUnclosed start
  let least ← readCount
  let (least, most) ← match ← peek? with
    | none => failFrom .countUnclosed start
    | some ',' => do
        match ← advance with
        | none => failFrom .countUnclosed start
        | some '\x7d' => do
            let least ← least
            pure (least, (none : Option Nat))
        | some _ => do
            let least ← least
            let most ← (← readCount)
            pure (least, some most)
    | some _ => do
        let least ← least
        pure (least, some least)
  if (← peek?) != some '\x7d' then failFrom .countUnclosed start
  if (← advance) == some '?' then bump
  if most.any (· < least) then failFrom .countOrder start
  pure (branches.add (← repeatedHere part least most))

def readMark (branches : OpenBranches) (least : Nat) (most : Option Nat) :
    ReadPattern OpenBranches := do
  let (part, branches) ← takeRepeated branches
  bump
  if (← peek?) == some '?' then bump
  pure (branches.add (← repeatedHere part least most))

def readItem : ReadPattern PatternTree := do
  let start ← place
  let single (item : PatternItem) : ReadPattern PatternTree := do
    bump
    pure (.item ⟨start, start + 1⟩ item)
  match ← peek? with
  | some '[' => readBracketed
  | some '.' => single .dot
  | some '^' => single (.place .lineStart)
  | some '$' => single (.place .lineEnd)
  | some '\\' => do
      let placed ← readEscape
      pure (.item placed.span placed.item)
  | some c => single (.one (.char c false))
  | none => pure (.row ⟨start, start⟩ [])

def changeSpaced (changes : FlagChanges) : ReadPattern Unit := do
  if let some (_, value) := changes.find? (·.1 = .spaced) then
    modify fun reader => { reader with spaced := value }

/-- Reads on in a pattern: the alternatives of the innermost open group and the
groups around are given. -/
def readBranches : Nat → OpenBranches → List OpenGroup → ReadPattern PatternTree
  | 0, branches, _ => do pure (branches.close (← place))
  | turns + 1, branches, groups => do
      skipSpace
      let here ← place
      match ← peek? with
      | none =>
          match groups with
          | [] => pure (branches.close here)
          | group :: _ => fail .groupUnclosed group.start (group.start + 1)
      | some '(' => do
          let spaced := (← get).spaced
          match ← readGroupStart with
          | .flags changes => do
              changeSpaced changes
              readBranches turns (branches.add (.flags ⟨here, ← place⟩ changes)) groups
          | .group kind => do
              if let .plain changes := kind then changeSpaced changes
              let opened := ⟨here, kind, spaced, branches⟩
              readBranches turns { start := ← place } (opened :: groups)
      | some ')' =>
          match groups with
          | [] => failAt .groupUnopened
          | group :: groups => do
              modify fun reader => { reader with spaced := group.spaced }
              bump
              readBranches turns (group.outer.add (group.close (branches.close here) (here + 1)))
                groups
      | some '|' => do
          bump
          readBranches turns (branches.split here) groups
      | some '?' => do readBranches turns (← readMark branches 0 (some 1)) groups
      | some '*' => do readBranches turns (← readMark branches 0 none) groups
      | some '+' => do readBranches turns (← readMark branches 1 none) groups
      | some '\x7b' => do readBranches turns (← readCounted branches) groups
      | some _ => do readBranches turns (branches.add (← readItem)) groups

def PatternTree.ofText (text : List Char) : Except PatternFault PatternTree := do
  let tree ← (readBranches (text.length + 1) { start := 0 } []).run' (.ofText text)
  tree.check 0
  pure tree

end BitmapFont.Text
