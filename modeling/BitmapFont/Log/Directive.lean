import BitmapFont.Log
import BitmapFont.Text.Space

/-!
# Directives

A directive sets the least severe level shown for the targets that begin with
its name; a directive without a name is for all targets.
-/

namespace BitmapFont

/-- The least severe level shown, or none where nothing is. -/
abbrev Threshold := Option Level

def Threshold.shows (threshold : Threshold) (level : Level) : Bool :=
  match threshold with
  | none => false
  | some least => level.rank ≤ least.rank

def Threshold.ofWord? (word : List Char) : Option Threshold :=
  match String.ofList (word.map Char.toLower) with
  | "off" => some none
  | "error" => some (some .error)
  | "warn" => some (some .warn)
  | "info" => some (some .info)
  | "debug" => some (some .debug)
  | "trace" => some (some .trace)
  | _ => none

structure Directive where
  name : Option (List Char)
  threshold : Threshold
  deriving Repr, DecidableEq

namespace Directive

def appliesTo (directive : Directive) (target : List Char) : Bool :=
  match directive.name with
  | none => true
  | some name => name.isPrefixOf target

/-- The rank by which directives are preferred: the longer the name the better,
and any name, even an empty one, is better than none. -/
def weight (directive : Directive) : Nat :=
  match directive.name with
  | none => 0
  | some name => name.length + 1

/-- Reads a directive: a level, a name, or a name and a level around an equals
sign.  A name without a level shows everything.  What cannot be read is given
back: the level, or all of a text with more than one equals sign. -/
def ofText (text : List Char) : Except (List Char) Directive :=
  match text.dropWhile (· != '=') with
  | [] =>
      match Threshold.ofWord? text with
      | some threshold => .ok ⟨none, threshold⟩
      | none => .ok ⟨some text, some .trace⟩
  | _ :: rest =>
      let name := text.takeWhile (· != '=')
      if rest.contains '=' then .error text
      else
        match Text.trim rest with
        | [] => .ok ⟨some name, some .trace⟩
        | level =>
            match Threshold.ofWord? level with
            | some threshold => .ok ⟨some name, threshold⟩
            | none => .error level

end Directive

end BitmapFont
