import BitmapFont.Log.Directive
import BitmapFont.Text.Pattern.Occurrence
import BitmapFont.Text.Pattern.Refusal
import BitmapFont.Text.Split

/-!
# Which events are shown

A filter holds directives and perhaps a pattern.  Of the directives that apply
to a target the one with the longest name decides, and where none applies
nothing is shown; the message of an event has to match the pattern besides.

A filter starts from a verbosity and is changed by a text: directives with
commas between them and, behind a slash, a pattern.  Parts of the text that
make no sense are passed over, each with a warning.
-/

namespace BitmapFont

structure Filter where
  directives : List Directive
  pattern : Option Text.Pattern := none
  deriving Repr, DecidableEq

inductive FilterFault where
  | tooManySlashes (text : List Char)
  | badDirective (part : List Char)
  | badPattern (text : List Char) (refusal : Text.PatternRefusal)
  deriving Repr, DecidableEq

def FilterFault.warning : FilterFault → String
  | tooManySlashes text =>
      "warning: invalid logging spec '" ++ String.ofList text ++
        "', ignoring it (too many '/'s)"
  | badDirective part =>
      "warning: invalid logging spec '" ++ String.ofList part ++ "', ignoring it"
  | badPattern text refusal => "warning: invalid regex filter - " ++ refusal.report text

structure FilterText where
  directives : List Directive := []
  pattern : Option Text.Pattern := none
  faults : List FilterFault := []
  deriving Repr, DecidableEq

namespace FilterText

def addDirective (read : FilterText) (text : List Char) : FilterText :=
  match Directive.ofText text with
  | .ok directive => { read with directives := read.directives ++ [directive] }
  | .error part => { read with faults := read.faults ++ [.badDirective part] }

def addPattern (read : FilterText) (text : List Char) : FilterText :=
  match Text.Pattern.ofText text with
  | .ok pattern => { read with pattern := some pattern }
  | .error refusal => { read with faults := read.faults ++ [.badPattern text refusal] }

/-- Reads directives with commas between them.  White space around one does not
count, and neither does an empty one. -/
def ofDirectives (text : List Char) : FilterText :=
  let parts := ((Text.splitAround ',' text).map Text.trim).filter (!·.isEmpty)
  parts.foldl addDirective {}

def ofText (text : String) : FilterText :=
  let chars := text.toList
  match Text.splitAround '/' chars with
  | [directives] => ofDirectives directives
  | [directives, pattern] => (ofDirectives directives).addPattern pattern
  | _ => { faults := [.tooManySlashes chars] }

end FilterText

namespace Filter

def ofVerbosity (verbosity : Nat) : Filter :=
  let level :=
    match verbosity with
    | 0 => Level.warn
    | 1 => .info
    | 2 => .debug
    | _ => .trace
  { directives := [⟨none, some level⟩] }

def insert (filter : Filter) (directive : Directive) : Filter :=
  { filter with
    directives := directive :: filter.directives.filter (·.name != directive.name) }

def override (filter : Filter) (text : FilterText) : Filter :=
  { text.directives.foldl insert filter with pattern := text.pattern }

def deciding? (filter : Filter) (target : List Char) : Option Directive :=
  (filter.directives.filter (·.appliesTo target)).foldl
    (fun (best : Option Directive) directive =>
      match best with
      | none => some directive
      | some other => if other.weight < directive.weight then some directive else some other)
    none

def admits (filter : Filter) (event : Event) : Bool :=
  match filter.deciding? event.target.toList with
  | none => false
  | some directive => directive.threshold.shows event.level

def shows (filter : Filter) (event : Event) : Bool :=
  filter.admits event && filter.pattern.all (·.occursIn event.message.toList)

end Filter

end BitmapFont
