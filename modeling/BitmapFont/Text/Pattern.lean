import BitmapFont.Text.Pattern.CharSet

/-!
# Patterns

A pattern describes stretches of a text.  Patterns are built by functions that
keep them simple: texts that follow each other are one text, alternatives of one
character each are one set, and what alternatives begin with in common stands in
front of them.
-/

namespace BitmapFont.Text

/-- What a pattern may ask about words, which are made of the letters of the
basic alphabet, digits and underscores. -/
inductive WordAssertion where
  | boundary
  | noBoundary
  | start
  | stop
  /-- No word character comes before. -/
  | startHalf
  /-- No word character comes after. -/
  | stopHalf
  deriving Repr, DecidableEq

inductive Assertion where
  | textStart
  | textEnd
  | lineStart
  | lineEnd
  /-- As `lineStart`, where carriage returns break lines too. -/
  | returnLineStart
  /-- As `lineEnd`, where carriage returns break lines too. -/
  | returnLineEnd
  | word (assertion : WordAssertion)
  | scriptWord
  deriving Repr, DecidableEq

inductive Pattern where
  | empty
  | text (chars : List Char)
  | one (set : CharSet)
  | place (assertion : Assertion)
  /-- A group with a number of its own. -/
  | captured (number : Nat) (pattern : Pattern)
  | sequence (first second : Pattern)
  | choice (first second : Pattern)
  /-- Stretches of one kind in a row, at least and at most so many. -/
  | repeated (pattern : Pattern) (least : Nat) (most : Option Nat)
  deriving Repr, DecidableEq

namespace Pattern

def ofSet (set : CharSet) : Pattern :=
  match set.single? with
  | some c => text [c]
  | none => one set

def parts : Pattern → List Pattern
  | empty => []
  | sequence first second => first :: second.parts
  | pattern => [pattern]

def branches : Pattern → List Pattern
  | choice first second => first :: second.branches
  | pattern => [pattern]

def push : Pattern → List Pattern → List Pattern
  | text chars, text more :: rest => text (chars ++ more) :: rest
  | pattern, rest => pattern :: rest

def ofParts : List Pattern → Pattern
  | [] => empty
  | [pattern] => pattern
  | pattern :: rest => sequence pattern (ofParts rest)

def row (patterns : List Pattern) : Pattern :=
  ofParts ((patterns.flatMap parts).foldr push [])

def ofBranches : List Pattern → Pattern
  | [] => one .none
  | [pattern] => pattern
  | pattern :: rest => choice pattern (ofBranches rest)

def letters? (patterns : List Pattern) : Option (List Char) :=
  patterns.mapM fun
    | text [c] => some c
    | _ => none

def sets? (patterns : List Pattern) : Option (List CharSet) :=
  patterns.mapM fun
    | one set => some set
    | _ => none

def merged (patterns : List Pattern) : Pattern :=
  let alternatives := patterns.flatMap branches
  match (letters? alternatives).map (·.map CharSet.single) <|> sets? alternatives with
  | some sets => ofSet (sets.foldl CharSet.union .none)
  | none => ofBranches alternatives

def commonStart : List Pattern → List Pattern → List Pattern
  | first :: rest, other :: others =>
      if first = other then first :: commonStart rest others else []
  | _, _ => []

def sharedStart (patterns : List Pattern) : List Pattern :=
  let rows := patterns.map parts
  if rows.all (2 ≤ ·.length) then rows.tail.foldl commonStart (rows.headD []) else []

def oneOf (patterns : List Pattern) : Pattern :=
  match merged patterns with
  | choice first second =>
      let alternatives := (choice first second).branches
      match sharedStart alternatives with
      | [] => choice first second
      | start =>
          row (start ++ [merged (alternatives.map fun alternative =>
            ofParts (alternative.parts.drop start.length))])
  | pattern => pattern

/-- Whether a pattern describes only the stretch without characters. -/
def isBare : Pattern → Bool
  | empty | place _ => true
  | text _ | one _ => false
  | captured _ pattern | repeated pattern _ _ => pattern.isBare
  | sequence first second | choice first second => first.isBare && second.isBare

/-- Stretches of one kind in a row.  Where they are without characters one of
them is as good as many. -/
def times (pattern : Pattern) (least : Nat) (most : Option Nat) : Pattern :=
  let (least, most) :=
    if pattern.isBare then (min least 1, some (min (most.getD 1) 1)) else (least, most)
  if most = some 0 then empty
  else if least = 1 && most = some 1 then pattern
  else repeated pattern least most

end Pattern

end BitmapFont.Text
