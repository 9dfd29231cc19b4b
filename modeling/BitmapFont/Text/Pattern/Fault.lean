import BitmapFont.Text.Printed

/-!
# Faults in the text of a pattern

Why a text gives no pattern, where in the text the fault is, and the report
that shows the text with the faulty parts underlined.
-/

namespace BitmapFont.Text

structure Span where
  start : Nat
  stop : Nat
  deriving Repr, DecidableEq

def maxNesting : Nat := 250

inductive PatternFaultKind where
  | classEscape
  | classRange
  | classRangeBoundary
  | classUnclosed
  | decimalEmpty
  | decimalTooLarge
  | hexEmpty
  | hexTooLarge
  | hexDigit
  | escapeIncomplete
  | escapeUnknown
  | flagNegationDangling
  | flagNegationRepeated
  | flagRepeated
  | flagIncomplete
  | flagUnknown
  | nameRepeated
  | nameEmpty
  | nameCharacter
  | nameUnclosed
  | groupUnclosed
  | groupUnopened
  | countOrder
  | countUnclosed
  | countEmpty
  | repetitionMissing
  | boundaryUnclosed
  | boundaryUnknown
  | boundaryIncomplete
  | propertyInvalid
  | backreference
  | lookAround
  | nestedTooDeep
  | propertyUnknown
  | propertyValueUnknown
  | shorthandUnknown
  | caseUnknown
  | beyondBytes
  | invalidEncoding
  deriving Repr, DecidableEq

namespace PatternFaultKind

def message : PatternFaultKind → String
  | classEscape => "invalid escape sequence found in character class"
  | classRange => "invalid character class range, the start must be <= the end"
  | classRangeBoundary => "invalid range boundary, must be a literal"
  | classUnclosed => "unclosed character class"
  | decimalEmpty => "decimal literal empty"
  | decimalTooLarge => "decimal literal invalid"
  | hexEmpty => "hexadecimal literal empty"
  | hexTooLarge => "hexadecimal literal is not a Unicode scalar value"
  | hexDigit => "invalid hexadecimal digit"
  | escapeIncomplete => "incomplete escape sequence, reached end of pattern prematurely"
  | escapeUnknown => "unrecognized escape sequence"
  | flagNegationDangling => "dangling flag negation operator"
  | flagNegationRepeated => "flag negation operator repeated"
  | flagRepeated => "duplicate flag"
  | flagIncomplete => "expected flag but got end of regex"
  | flagUnknown => "unrecognized flag"
  | nameRepeated => "duplicate capture group name"
  | nameEmpty => "empty capture group name"
  | nameCharacter => "invalid capture group character"
  | nameUnclosed => "unclosed capture group name"
  | groupUnclosed => "unclosed group"
  | groupUnopened => "unopened group"
  | countOrder => "invalid repetition count range, the start must be <= the end"
  | countUnclosed => "unclosed counted repetition"
  | countEmpty => "repetition quantifier expects a valid decimal"
  | repetitionMissing => "repetition operator missing expression"
  | boundaryUnclosed =>
      "special word boundary assertion is either unclosed or contains an invalid character"
  | boundaryUnknown =>
      "unrecognized special word boundary assertion, valid choices are: " ++
        "start, end, start-half or end-half"
  | boundaryIncomplete =>
      "found either the beginning of a special word boundary or a bounded repetition on a \\b " ++
        "with an opening brace, but no closing brace"
  | propertyInvalid => "invalid Unicode character class"
  | backreference => "backreferences are not supported"
  | lookAround => "look-around, including look-ahead and look-behind, is not supported"
  | nestedTooDeep =>
      s!"exceed the maximum number of nested parentheses/brackets ({maxNesting})"
  | propertyUnknown => "Unicode property not found"
  | propertyValueUnknown => "Unicode property value not found"
  | shorthandUnknown =>
      "Unicode-aware Perl class not found (make sure the unicode-perl feature is enabled)"
  | caseUnknown =>
      "Unicode-aware case insensitivity matching is not available " ++
        "(make sure the unicode-case feature is enabled)"
  | beyondBytes => "Unicode not allowed here"
  | invalidEncoding => "pattern can match invalid UTF-8"

end PatternFaultKind

/-- What is wrong with the text of a pattern, and where; an earlier part is shown
too where the fault is a repetition of it. -/
structure PatternFault where
  kind : PatternFaultKind
  span : Span
  earlier : Option Span := none
  deriving Repr, DecidableEq

structure Position where
  line : Nat
  column : Nat
  deriving Repr, DecidableEq

def Position.behind (text : List Char) (count : Nat) : Position :=
  (text.take count).foldl
    (fun position c =>
      if c = '\n' then ⟨position.line + 1, 1⟩ else ⟨position.line, position.column + 1⟩)
    ⟨1, 1⟩

namespace PatternFault

def spans (fault : PatternFault) : List Span :=
  match fault.earlier with
  | none => [fault.span]
  | some other =>
      if other.start ≤ fault.span.start then [other, fault.span] else [fault.span, other]

def underline (parts : List (Nat × Nat)) : List Char :=
  parts.foldl
    (fun line (first, behind) =>
      line ++ List.replicate (first - 1 - line.length) ' ' ++
        List.replicate (max 1 (behind - first)) '^')
    []

/-- The text of a pattern with the faulty parts underlined.  Where it has
several lines they are numbered. -/
def notate (fault : PatternFault) (text : List Char) : String :=
  let positions := fault.spans.map fun span =>
    (Position.behind text span.start, Position.behind text span.stop)
  let lineCount := text.count '\n' + 1
  let width := if lineCount ≤ 1 then 0 else (toString lineCount).length
  let padding := if width = 0 then 4 else width + 2
  let written := (printedLines text).zipIdx.map fun (line, index) =>
    let margin :=
      if width = 0 then List.replicate padding ' '
      else (toString (index + 1)).toList.leftpad width ' ' ++ [':', ' ']
    let parts := positions.filterMap fun (first, behind) =>
      if first.line = index + 1 && behind.line = index + 1 then
        some (first.column, behind.column)
      else
        none
    let marked :=
      if parts.isEmpty then []
      else List.replicate padding ' ' ++ underline parts ++ ['\n']
    margin ++ line ++ ['\n'] ++ marked
  String.ofList written.flatten

def acrossLines (fault : PatternFault) (text : List Char) : String :=
  let notes := fault.spans.filterMap fun span =>
    let first := Position.behind text span.start
    let behind := Position.behind text span.stop
    if first.line = behind.line then none
    else some (s!"on line {first.line} (column {first.column}) through line {behind.line} " ++
      s!"(column {behind.column - 1})")
  if notes.isEmpty then "" else "\n".intercalate notes ++ "\n"

def report (fault : PatternFault) (text : List Char) : String :=
  let notated := fault.notate text
  let shown :=
    if text.contains '\n' then
      let divider := String.ofList (List.replicate 79 '~') ++ "\n"
      divider ++ notated ++ divider ++ fault.acrossLines text
    else
      notated
  "regex parse error:\n" ++ shown ++ "error: " ++ fault.kind.message

end PatternFault

end BitmapFont.Text
