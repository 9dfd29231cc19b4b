import BitmapFont.Text.Pattern.Meaning
import BitmapFont.Text.Pattern.Read
import BitmapFont.Text.Pattern.Size

/-!
# Patterns and the texts that write them

`Pattern.ofText` gives the pattern that a text writes, or the reason why there is
none: a fault in the text, a pattern whose machines are too large, or a question
about the words of all scripts.
-/

namespace BitmapFont.Text

inductive PatternRefusal where
  | fault (fault : PatternFault)
  | tooLarge
  | asksScript
  deriving Repr, DecidableEq

def maxMachineSize : Nat := 10485760

def PatternRefusal.report (refusal : PatternRefusal) (text : List Char) : String :=
  match refusal with
  | fault found => found.report text
  | tooLarge => s!"Compiled regex exceeds size limit of {maxMachineSize} bytes."
  | asksScript => "error building NFA"

namespace Pattern

def checkSize (pattern : Pattern) (direction : Direction) : Except PatternRefusal Unit :=
  if pattern.machineSize direction ≤ maxMachineSize then .ok () else .error .tooLarge

def ofTree (tree : PatternTree) : Except PatternFault Pattern := do
  let (pattern, _) ← tree.meaning {}
  pure pattern

def ofText (text : List Char) : Except PatternRefusal Pattern := do
  let tree ← (PatternTree.ofText text).mapError .fault
  let pattern ← (ofTree tree).mapError .fault
  pattern.checkSize .forward
  if pattern.asksScript then throw .asksScript
  pattern.checkSize .backward
  pure pattern

end Pattern

end BitmapFont.Text
