import BitmapFont.Text.Pattern

/-!
# Occurrences of patterns

`Pattern.occursIn` says whether some stretch of a text is as a pattern
describes it.

The places of a text are the gaps between its characters, its start and its end
included.  The meaning of a pattern in a text is a list with one number for each
place: its bits are the lengths of the stretches from that place on that the
pattern describes.  So the meaning is found part by part, and its cost does not
hang on how the parts are nested.
-/

namespace BitmapFont.Text

structure Site where
  before : Option Char
  rest : List Char
  deriving Repr, DecidableEq

def sitesFrom : Option Char → List Char → List Site
  | before, [] => [⟨before, []⟩]
  | before, c :: rest => ⟨before, c :: rest⟩ :: sitesFrom (some c) rest

def sites (text : List Char) : List Site :=
  sitesFrom none text

def WordAssertion.holds (assertion : WordAssertion) (site : Site) : Bool :=
  let before := site.before.any CharSet.wordCharacters.contains
  let after := site.rest.head?.any CharSet.wordCharacters.contains
  match assertion with
  | boundary => before != after
  | noBoundary => before == after
  | start => !before && after
  | stop => before && !after
  | startHalf => !before
  | stopHalf => !after

def Assertion.holds (assertion : Assertion) (site : Site) : Bool :=
  let after := site.rest.head?
  match assertion with
  | textStart => site.before.isNone
  | textEnd => after.isNone
  | lineStart => site.before.all (· == '\n')
  | lineEnd => after.all (· == '\n')
  | returnLineStart =>
      site.before.all (· == '\n') || (site.before == some '\r' && after != some '\n')
  | returnLineEnd =>
      after.all (· == '\r') || (after == some '\n' && site.before != some '\r')
  | word assertion => assertion.holds site
  | scriptWord => false

abbrev Stretches := List Nat

namespace Stretches

/-- The lengths of stretches of two kinds in a row: those of the first kind are
given for one place, and those of the second for this place and those behind. -/
def gather : Nat → Stretches → Nat
  | _, [] => 0
  | lengths, here :: behind =>
      if lengths = 0 then 0
      else (if lengths % 2 = 1 then here else 0) ||| 2 * gather (lengths / 2) behind

def andThen : Stretches → Stretches → Stretches
  | lengths :: firsts, here :: behind =>
      gather lengths (here :: behind) :: andThen firsts behind
  | _, _ => []

def or (a b : Stretches) : Stretches :=
  List.zipWith (· ||| ·) a b

def bare (stretches : Stretches) : Stretches :=
  stretches.map fun _ => 1

def power (stretches : Stretches) (count : Nat) : Stretches :=
  if count = 0 then stretches.bare
  else
    let pairs := (stretches.andThen stretches).power (count / 2)
    if count % 2 = 1 then stretches.andThen pairs else pairs
termination_by count

def closure : Stretches → Stretches
  | [] => []
  | lengths :: behind =>
      let closed := closure behind
      (1 ||| 2 * gather (lengths / 2) closed) :: closed

end Stretches

namespace Pattern

/-- The stretches that a pattern describes.  Of more repetitions than the text
has places one can be left out or is without characters, so no more than that
need be tried. -/
def stretches (sites : List Site) : Pattern → Stretches
  | empty => sites.map fun _ => 1
  | text chars => sites.map fun site =>
      if chars.isPrefixOf site.rest then 2 ^ chars.length else 0
  | one set => sites.map fun site => if site.rest.head?.any set.contains then 2 else 0
  | place assertion => sites.map fun site => if assertion.holds site then 1 else 0
  | captured _ pattern => pattern.stretches sites
  | sequence first second => (first.stretches sites).andThen (second.stretches sites)
  | choice first second => (first.stretches sites).or (second.stretches sites)
  | repeated pattern least most =>
      let once := pattern.stretches sites
      let bound := sites.length
      let further :=
        match most with
        | none => once.closure
        | some most => (once.bare.or once).power (min (most - least) bound)
      (once.power (min least bound)).andThen further

def occursIn (pattern : Pattern) (text : List Char) : Bool :=
  (pattern.stretches (sites text)).any (· != 0)

end Pattern

end BitmapFont.Text
