import BitmapFont.Text.Pattern.Reader
import BitmapFont.Text.Pattern.Tree

/-!
# Items behind a backslash

A backslash takes the meaning from a character that has one, and gives one to
some letters: sets, places, control characters and characters by their code.
-/

namespace BitmapFont.Text

open ReadPattern

/-- An item and where it stands. -/
structure PlacedItem where
  item : PatternItem
  span : Span
  deriving Repr, DecidableEq

/-- Reads the digits of a character behind `\x`, `\u` or `\U`, one after the
other, and goes behind them. -/
def readHexDigits : Nat → ReadPattern (List Char)
  | 0 => pure []
  | missing + 1 => do
      match ← peek? with
      | none => failHere .escapeIncomplete
      | some c =>
          if isHexDigit c then
            let _ ← advance
            pure (c :: (← readHexDigits missing))
          else
            failAt .hexDigit

/-- Reads the code of a character, either so many digits or any number of them
in braces.  Two digits without braces write a byte. -/
def readCode (count : Nat) : ReadPattern CharItem := do
  match ← advance with
  | none => failHere .escapeIncomplete
  | some '\x7b' => do
      let brace ← place
      let _ ← advance
      let digits ← takeWhile isHexDigit (← fuel)
      match ← peek? with
      | none => failFrom .escapeIncomplete brace
      | some '\x7d' => do
          let stop ← place
          let _ ← advance
          if digits.isEmpty then
            failFrom .hexEmpty brace
          else
            match charOfHex? digits with
            | some c => pure (.char c false)
            | none => fail .hexTooLarge (brace + 1) stop
      | some _ => failAt .hexDigit
  | some _ => do
      let start ← place
      let digits ← readHexDigits count
      match charOfHex? digits with
      | some c => pure (.char c (count = 2))
      | none => failFrom .hexTooLarge start

/-- Reads the name of a property behind `\p` or `\P`, either a character or any
number of them in braces. -/
def readProperty : ReadPattern (List Char) := do
  match ← advance with
  | none => failHere .escapeIncomplete
  | some '\x7b' => do
      let _ ← advance
      let name ← takeWhile (· != '\x7d') (← fuel)
      if (← peek?).isNone then failHere .escapeIncomplete
      bump
      pure name
  | some '\\' => failAt .propertyInvalid
  | some c => do
      let _ ← advance
      pure [c]

/-- Reads what may stand in braces behind `\b`.  Braces that hold anything but
letters and hyphens are left for a repetition. -/
def readBoundary (start : Nat) : ReadPattern PlaceItem := do
  let isNameChar (c : Char) : Bool := c.isAlpha || c == '-'
  let before ← get
  match ← peek? with
  | some '\x7b' => do
      let brace ← place
      match ← advance with
      | none => failFrom .boundaryIncomplete start
      | some c =>
          if isNameChar c then do
            let contents ← place
            let name ← takeWhile isNameChar (← fuel)
            match ← peek? with
            | some '\x7d' => do
                let stop ← place
                bump
                match String.ofList name with
                | "start" => pure .wordStart
                | "end" => pure .wordEnd
                | "start-half" => pure .wordStartHalf
                | "end-half" => pure .wordEndHalf
                | _ => fail .boundaryUnknown contents stop
            | _ => failFrom .boundaryUnclosed brace
          else do
            set before
            pure .wordBoundary
  | _ => pure .wordBoundary

/-- Characters that may always stand behind a backslash for themselves: those
of the first 128 that are neither letters nor digits nor angle brackets. -/
def isEscapable (c : Char) : Bool :=
  c.toNat < 0x80 && !c.isAlphanum && c != '<' && c != '>'

def shorthand? (c : Char) : Option CharItem :=
  match c with
  | 'd' => some (.shorthand .digits false)
  | 's' => some (.shorthand .spaces false)
  | 'w' => some (.shorthand .wordCharacters false)
  | 'D' => some (.shorthand .digits true)
  | 'S' => some (.shorthand .spaces true)
  | 'W' => some (.shorthand .wordCharacters true)
  | _ => none

def controlNamed? (c : Char) : Option Char :=
  match c with
  | 'a' => some '\x07'
  | 'f' => some '\x0c'
  | 't' => some '\t'
  | 'n' => some '\n'
  | 'r' => some '\r'
  | 'v' => some '\x0b'
  | _ => none

def codeLength? (c : Char) : Option Nat :=
  match c with
  | 'x' => some 2
  | 'u' => some 4
  | 'U' => some 8
  | _ => none

/-- Reads a letter behind a backslash that asks something of a place, or a
character that stands for itself. -/
def readPlace (start : Nat) (c : Char) : ReadPattern PatternItem := do
  match c with
  | 'A' => pure (.place .textStart)
  | 'z' => pure (.place .textEnd)
  | 'b' => do pure (.place (← readBoundary start))
  | 'B' => pure (.place .noWordBoundary)
  | '<' => pure (.place .wordStart)
  | '>' => pure (.place .wordEnd)
  | c =>
      if c.isDigit then failFrom .backreference start
      else if isEscapable c then pure (.one (.char c false))
      else failFrom .escapeUnknown start

def readEscaped (start : Nat) (c : Char) : ReadPattern PatternItem := do
  if let some count := codeLength? c then
    return .one (← readCode count)
  if c = 'p' || c = 'P' then
    return .one (.property (← readProperty))
  bump
  if let some item := shorthand? c then
    return .one item
  if let some control := controlNamed? c then
    return .one (.char control false)
  readPlace start c

def readEscape : ReadPattern PlacedItem := do
  let start ← place
  bump
  match ← peek? with
  | none => failFrom .escapeIncomplete start
  | some c => do
      let item ← readEscaped start c
      pure ⟨item, start, ← place⟩

end BitmapFont.Text
