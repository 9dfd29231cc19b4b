import BitmapFont.Text.Pattern.Fault
import BitmapFont.Text.Space

/-!
# Reading the text of a pattern

The state of reading: the rest of the text, whether white space is to be skipped
in it, and the groups met so far; and the steps that all parts of the reading are
made of.  Every turn of a loop takes at least one character, so the number of
characters is the fuel of all loops.
-/

namespace BitmapFont.Text

structure PatternReader where
  /-- The number of characters in front of the place reached. -/
  place : Nat
  /-- The number of characters behind the place reached. -/
  left : Nat
  rest : List Char
  /-- White space and comments are skipped. -/
  spaced : Bool
  groups : Nat
  names : List (List Char × Span)
  deriving Repr, DecidableEq

def PatternReader.ofText (text : List Char) : PatternReader :=
  { place := 0, left := text.length, rest := text, spaced := false, groups := 0, names := [] }

abbrev ReadPattern (α : Type) := StateT PatternReader (Except PatternFault) α

namespace ReadPattern

def place : ReadPattern Nat := do
  pure (← get).place

def peek? : ReadPattern (Option Char) := do
  pure (← get).rest.head?

def skip (count : Nat) : ReadPattern Unit :=
  modify fun reader =>
    let count := min count reader.left
    { reader with
      place := reader.place + count
      left := reader.left - count
      rest := reader.rest.drop count }

def bump : ReadPattern Unit :=
  skip 1

/-- The number of characters of white space and comments at the start of a text;
a comment goes from `#` to the end of a line. -/
def spaceLength (inComment : Bool) : List Char → Nat
  | [] => 0
  | c :: rest =>
      if inComment then 1 + spaceLength (c != '\n') rest
      else if isWhiteSpace c then 1 + spaceLength false rest
      else if c = '#' then 1 + spaceLength true rest
      else 0

def skipSpace : ReadPattern Unit := do
  let reader ← get
  if reader.spaced then skip (spaceLength false reader.rest)

/-- Goes behind the next character and what is to be skipped there, and gives
the character reached. -/
def advance : ReadPattern (Option Char) := do
  bump
  skipSpace
  peek?

def bumpIf (text : String) : ReadPattern Bool := do
  if text.toList.isPrefixOf (← get).rest then
    skip text.length
    pure true
  else
    pure false

/-- A character behind the next one.  Where white space is skipped it is the
first that is not white space, or is so only behind a `#`; a comment itself is
not passed over. -/
def second? : ReadPattern (Option Char) := do
  let reader ← get
  let behind := reader.rest.tail
  let found :=
    if reader.spaced then
      match behind.dropWhile isWhiteSpace with
      | '#' :: rest => rest.dropWhile isWhiteSpace
      | other => other
    else
      behind
  pure (found.head? <|> behind.head?)

def fail {α : Type} (kind : PatternFaultKind) (start stop : Nat) : ReadPattern α :=
  throw { kind, span := ⟨start, stop⟩ }

def failHere {α : Type} (kind : PatternFaultKind) : ReadPattern α := do
  let here ← place
  fail kind here here

def failAt {α : Type} (kind : PatternFaultKind) : ReadPattern α := do
  let here ← place
  fail kind here (here + 1)

def failFrom {α : Type} (kind : PatternFaultKind) (start : Nat) : ReadPattern α := do
  fail kind start (← place)

/-- The number of turns that suffice for any loop. -/
def fuel : ReadPattern Nat := do
  pure ((← get).left + 1)

/-- Takes characters as long as they pass, and skips what is to be skipped
between them. -/
def takeWhile (pass : Char → Bool) : Nat → ReadPattern (List Char)
  | 0 => pure []
  | turns + 1 => do
      match ← peek? with
      | none => pure []
      | some c =>
          if pass c then
            let _ ← advance
            pure (c :: (← takeWhile pass turns))
          else
            pure []

end ReadPattern

def numberOf (base : Nat) (digits : List Char) : Nat :=
  digits.foldl
    (fun number c =>
      let digit :=
        if c.isDigit then c.toNat - 48
        else if 'a' ≤ c && c ≤ 'f' then c.toNat - 87
        else c.toNat - 55
      base * number + digit)
    0

def isHexDigit (c : Char) : Bool :=
  c.isDigit || ('a' ≤ c && c ≤ 'f') || ('A' ≤ c && c ≤ 'F')

def charOfHex? (digits : List Char) : Option Char :=
  let number := numberOf 16 digits
  if h : number.isValidChar then some (Char.ofNatAux number h) else none

end BitmapFont.Text
