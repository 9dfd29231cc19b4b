import BitmapFont.Text.Pattern
import BitmapFont.Text.Pattern.Tree

/-!
# What the text of a pattern means

`PatternTree.meaning` gives the pattern that a tree stands for.  Flags hold from
their place to the end of the group around them, in later alternatives too.

The meaning of some parts hangs on knowledge about all scripts: the sets behind a
backslash, properties, and the case of letters.  There is no such knowledge here,
so these parts are refused unless a flag makes bytes count instead of
characters.  Then only the first 128 characters are known, and a part is refused
that stands for a byte beyond them.
-/

namespace BitmapFont.Text

structure PatternFlags where
  anyCase : Bool := false
  byLine : Bool := false
  dotAll : Bool := false
  returns : Bool := false
  characters : Bool := true
  deriving Repr, DecidableEq

namespace PatternFlags

def set (flags : PatternFlags) : PatternFlag × Bool → PatternFlags
  | (.anyCase, value) => { flags with anyCase := value }
  | (.byLine, value) => { flags with byLine := value }
  | (.dotAll, value) => { flags with dotAll := value }
  | (.returns, value) => { flags with returns := value }
  | (.characters, value) => { flags with characters := value }
  | (.short, _) | (.spaced, _) => flags

def change (flags : PatternFlags) (changes : FlagChanges) : PatternFlags :=
  changes.foldl set flags

def word (flags : PatternFlags) (assertion : WordAssertion) : Assertion :=
  if flags.characters then .scriptWord else .word assertion

def assertion (flags : PatternFlags) : PlaceItem → Assertion
  | .lineStart =>
      if flags.byLine then (if flags.returns then .returnLineStart else .lineStart)
      else .textStart
  | .lineEnd =>
      if flags.byLine then (if flags.returns then .returnLineEnd else .lineEnd)
      else .textEnd
  | .textStart => .textStart
  | .textEnd => .textEnd
  | .wordBoundary => flags.word .boundary
  | .noWordBoundary => flags.word .noBoundary
  | .wordStart => flags.word .start
  | .wordEnd => flags.word .stop
  | .wordStartHalf => flags.word .startHalf
  | .wordEndHalf => flags.word .stopHalf

def dot (flags : PatternFlags) : CharSet :=
  if flags.dotAll then .all
  else if flags.returns then (CharSet.ofRanges [('\n', '\n'), ('\r', '\r')]).complement
  else (CharSet.single '\n').complement

end PatternFlags

def refuse {α : Type} (kind : PatternFaultKind) (span : Span) : Except PatternFault α :=
  .error { kind, span }

/-- The set that a letter behind a backslash is short for, among the first 128
characters. -/
def Shorthand.set : Shorthand → CharSet
  | digits => .digits
  | spaces => .spaces
  | wordCharacters => .wordCharacters

/-- The name of a property as it is looked up: in small letters, without a leading
`is` and without blanks, hyphens, underscores and characters beyond the first
128. -/
def plainName (name : List Char) : List Char :=
  let name :=
    match name with
    | i :: s :: rest => if i.toLower = 'i' && s.toLower = 's' then rest else name
    | _ => name
  (name.filter fun c => c.toNat < 0x80 && c != ' ' && c != '-' && c != '_').map Char.toLower

/-- The fault of a property.  Three names are taken for values of a property at
once, all others for properties. -/
def propertyFault (flags : PatternFlags) (name : List Char) : PatternFaultKind :=
  if !flags.characters then .beyondBytes
  else if ["cf", "lc", "sc"].contains (String.ofList (plainName name)) then .propertyValueUnknown
  else .propertyUnknown

def Shorthand.meaning (shorthand : Shorthand) (flags : PatternFlags) (span : Span)
    (negated : Bool) : Except PatternFault CharSet :=
  if flags.characters then refuse .shorthandUnknown span
  else if negated then refuse .invalidEncoding span
  else pure shorthand.set

/-- Refuses a character that is written as a byte where bytes count and this one
is no character. -/
def WrittenChar.check (c : WrittenChar) (flags : PatternFlags) : Except PatternFault Unit :=
  if !flags.characters && c.asByte && 0x80 ≤ c.char.toNat then refuse .invalidEncoding c.span
  else pure ()

def WrittenChar.meaning (c : WrittenChar) (flags : PatternFlags) : Except PatternFault Pattern := do
  c.check flags
  if !flags.anyCase then pure (.text [c.char])
  else if flags.characters then refuse .caseUnknown c.span
  else pure (.ofSet (CharSet.single c.char).anyCase)

/-- Refuses a character in brackets that is not a single byte where bytes count. -/
def WrittenChar.checkInSet (c : WrittenChar) (flags : PatternFlags) :
    Except PatternFault Unit := do
  c.check flags
  if !flags.characters && 0x80 ≤ c.char.toNat then refuse .beyondBytes c.span

/-- A set and whether it is known to hold both cases of its letters, which is known
only of sets that no single character went into. -/
structure CasedSet where
  set : CharSet
  closed : Bool
  deriving Repr, DecidableEq

namespace CasedSet

def empty : CasedSet :=
  ⟨.none, true⟩

def push (cased : CasedSet) (low high : Char) : CasedSet :=
  ⟨cased.set.union (.range low high), false⟩

def union (a b : CasedSet) : CasedSet :=
  if b.set.isEmpty || a.set = b.set then a
  else ⟨a.set.union b.set, a.closed && b.closed⟩

def complement (cased : CasedSet) : CasedSet :=
  ⟨cased.set.complement, cased.closed || cased.set.isEmpty⟩

def common (a b : CasedSet) : CasedSet :=
  if a.set.isEmpty then a
  else if b.set.isEmpty then empty
  else ⟨a.set.common b.set, a.closed && b.closed⟩

def difference (a b : CasedSet) : CasedSet :=
  if a.set.isEmpty || b.set.isEmpty then a
  else ⟨a.set.difference b.set, a.closed && b.closed⟩

def operate (operation : SetOperation) (a b : CasedSet) : CasedSet :=
  match operation with
  | .common => a.common b
  | .difference => a.difference b
  | .symmetricDifference => (a.union b).difference (a.common b)

def fold (cased : CasedSet) (flags : PatternFlags) (span : Span) :
    Except PatternFault CasedSet :=
  if !flags.anyCase || cased.closed then pure cased
  else if !flags.characters then pure ⟨cased.set.anyCase, true⟩
  else if cased.set.isEmpty then pure empty
  else refuse .caseUnknown span

def settle (cased : CasedSet) (flags : PatternFlags) (span : Span) (negated : Bool) :
    Except PatternFault CasedSet := do
  let folded ← cased.fold flags span
  let settled := if negated then folded.complement else folded
  if !flags.characters && !settled.set.isBasic then refuse .invalidEncoding span
  else pure settled

end CasedSet

mutual

def SetTree.addTo (flags : PatternFlags) (held : CasedSet) :
    SetTree → Except PatternFault CasedSet
  | .item span (.char char asByte) => do
      WrittenChar.checkInSet { char, asByte, span } flags
      pure (held.push char char)
  | .item span (.shorthand shorthand negated) => do
      pure (held.union ⟨← shorthand.meaning flags span negated, false⟩)
  | .item span (.property name) => refuse (propertyFault flags name) span
  | .interval low high => do
      low.checkInSet flags
      high.checkInSet flags
      pure (held.push low.char high.char)
  | .named span set negated => do
      pure (held.union (← CasedSet.settle ⟨set, false⟩ flags span negated))
  | .bracketed span negated inner => do
      pure (held.union (← (← inner.addTo flags .empty).settle flags span negated))
  | .union _ items => SetTree.addAllTo flags held items
  | .operation _ kind first second => do
      let a ← first.addTo flags .empty
      let b ← second.addTo flags .empty
      let b ← b.fold flags second.span
      let a ← a.fold flags first.span
      pure (held.union (a.operate kind b))

def SetTree.addAllTo (flags : PatternFlags) (held : CasedSet) :
    List SetTree → Except PatternFault CasedSet
  | [] => pure held
  | first :: rest => do
      SetTree.addAllTo flags (← first.addTo flags held) rest

end

def PatternItem.meaning (item : PatternItem) (flags : PatternFlags) (span : Span) :
    Except PatternFault Pattern :=
  match item with
  | one (.char char asByte) => WrittenChar.meaning { char, asByte, span } flags
  | one (.shorthand shorthand negated) => do
      pure (.ofSet (← shorthand.meaning flags span negated))
  | one (.property name) => refuse (propertyFault flags name) span
  | dot => if flags.characters then pure (.ofSet flags.dot) else refuse .invalidEncoding span
  | place item => pure (.place (flags.assertion item))

mutual

/-- The pattern that a tree stands for under some flags, and the flags behind it. -/
def PatternTree.meaning (flags : PatternFlags) :
    PatternTree → Except PatternFault (Pattern × PatternFlags)
  | .item span single => do pure (← single.meaning flags span, flags)
  | .bracketed span negated inner => do
      let cased ← (← inner.addTo flags .empty).settle flags span negated
      pure (.ofSet cased.set, flags)
  | .flags _ changes => pure (.empty, flags.change changes)
  | .repeated _ inner least most => do
      let (pattern, flags) ← inner.meaning flags
      pure (pattern.times least most, flags)
  | .captured _ number inner => do
      let (pattern, _) ← inner.meaning flags
      pure (.captured number pattern, flags)
  | .group _ changes inner => do
      let (pattern, _) ← inner.meaning (flags.change changes)
      pure (pattern, flags)
  | .row _ parts => do
      let (patterns, flags) ← PatternTree.meaningAll flags parts
      pure (.row patterns, flags)
  | .choice _ branches => do
      let (patterns, flags) ← PatternTree.meaningAll flags branches
      pure (.oneOf patterns, flags)

def PatternTree.meaningAll (flags : PatternFlags) :
    List PatternTree → Except PatternFault (List Pattern × PatternFlags)
  | [] => pure ([], flags)
  | first :: rest => do
      let (pattern, flags) ← first.meaning flags
      let (patterns, flags) ← PatternTree.meaningAll flags rest
      pure (pattern :: patterns, flags)

end

end BitmapFont.Text
