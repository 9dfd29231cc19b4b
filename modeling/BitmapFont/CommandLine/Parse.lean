import BitmapFont.CommandLine.Height
import BitmapFont.CommandLine.Word

/-!
# Reading a command line

Words are taken from left to right.  An argument whose value may be the next
word, or whose value has just been given as a word of its own, is pending: its
value and its repetition are looked at when the next argument that is known
begins, or when the words end.  A word that nothing accounts for is reported at
once, before what is pending.  Where the command line gives no output path the
environment may; only then is the font path required.
-/

namespace BitmapFont.CommandLine

structure Given where
  font : Option String := none
  output : Option String := none
  preview : Option String := none
  glyphHeight : Option UInt8 := none
  exactWidth : Bool := false
  verbosity : Nat := 0
  deriving Repr, DecidableEq

namespace Given

def has (given : Given) : ValueArgument → Bool
  | .font => given.font.isSome
  | .output => given.output.isSome
  | .preview => given.preview.isSome
  | .glyphHeight => given.glyphHeight.isSome

def set (given : Given) (argument : ValueArgument) (value : String) :
    Except UsageError Given :=
  match argument with
  | .font =>
      if value.isEmpty then .error (.missingValue .font)
      else .ok { given with font := some value }
  | .output =>
      if value.isEmpty then .error (.missingValue .output)
      else .ok { given with output := some value }
  | .preview => .ok { given with preview := some value }
  | .glyphHeight =>
      match readHeight value.toList with
      | .ok height => .ok { given with glyphHeight := some height }
      | .error fault => .error (.invalidHeight value fault)

/-- Accepts an argument: first it has to have a value, then it must not have
been given before, then the value has to be one that it takes. -/
def accept (given : Given) (argument : ValueArgument) (value : Option String) :
    Except Stop Given :=
  match value with
  | none => .error (.usage (.missingValue argument))
  | some value =>
      if given.has argument then
        .error (.usage (.repeatedValue argument))
      else
        (given.set argument value).mapError .usage

def raise (given : Given) : Flag → Except Stop Given
  | .help => .error .help
  | .verbose => .ok { given with verbosity := min (given.verbosity + 1) maxVerbosity }
  | .exactWidth =>
      if given.exactWidth then .error (.usage (.repeatedFlag .exactWidth))
      else .ok { given with exactWidth := true }

def toConfig (given : Given) (fontPath outputPath : String) : Config where
  fontPath
  outputPath
  policy := if given.exactWidth then .exact else .lenient
  glyphHeight := given.glyphHeight.getD GlyphTable.defaultHeight
  preview := given.preview
  verbosity := given.verbosity

/-- The configuration of what is given, once the output path is known. -/
def config (given : Given) (outputPath : String) : Except Stop Config :=
  match given.font with
  | none => .error (.usage .missingFont)
  | some fontPath => .ok (given.toConfig fontPath outputPath)

theorem config_eq_ok_iff {given : Given} {outputPath : String} {config : Config} :
    given.config outputPath = .ok config ↔
      ∃ fontPath, given.font = some fontPath ∧ given.toConfig fontPath outputPath = config := by
  unfold Given.config
  cases given.font <;> simp

end Given

structure Pending where
  argument : ValueArgument
  value : Option String
  deriving Repr, DecidableEq

structure Progress where
  given : Given := {}
  pending : Option Pending := none
  /-- Whether a separator has made all further words positional. -/
  positionalOnly : Bool := false
  deriving Repr, DecidableEq

def longArgument? (name : List Char) : Option (ValueArgument ⊕ Flag) :=
  if name = "preview".toList then some (.inl .preview)
  else if name = "glyph-height".toList then some (.inl .glyphHeight)
  else if name = "exact-width".toList then some (.inr .exactWidth)
  else if name = "verbose".toList then some (.inr .verbose)
  else if name = "help".toList then some (.inr .help)
  else none

namespace Progress

def fontTaken (progress : Progress) : Bool :=
  progress.given.font.isSome || progress.pending.any (·.argument == .font)

def settle (progress : Progress) : Except Stop Progress :=
  match progress.pending with
  | none => .ok progress
  | some ⟨argument, value⟩ =>
      (progress.given.accept argument value).map fun given =>
        { progress with given, pending := none }

def begin (progress : Progress) (argument : ValueArgument) (value : Option String) :
    Except Stop Progress :=
  progress.settle.map fun settled => { settled with pending := some ⟨argument, value⟩ }

def attach (progress : Progress) (argument : ValueArgument) (value : List Char) :
    Except Stop Progress := do
  let settled ← progress.settle
  let given ← settled.given.accept argument (some (String.ofList value))
  pure { settled with given }

def flag (progress : Progress) (flag : Flag) : Except Stop Progress := do
  let settled ← progress.settle
  let given ← settled.given.raise flag
  pure { settled with given }

def positional (progress : Progress) (word : String) : Except Stop Progress :=
  if progress.fontTaken then
    .error (.usage (.unknown word))
  else
    progress.begin .font (some word)

def long (progress : Progress) (name : List Char) (value : Option (List Char)) :
    Except Stop Progress :=
  match longArgument? name, value with
  | none, _ => .error (.usage (.unknown ("--" ++ String.ofList name)))
  | some (.inl argument), none => progress.begin argument none
  | some (.inl argument), some value => progress.attach argument value
  | some (.inr flag), none => progress.flag flag
  | some (.inr flag), some value =>
      .error (.usage (.unneededValue flag (String.ofList value)))

/-- The word is a cluster of letters: flags in a row, or the output path behind
its letter. -/
def cluster : Progress → List Char → Except Stop Progress
  | progress, [] => .ok progress
  | progress, letter :: rest =>
      if letter = 'v' then do
        let after ← progress.flag .verbose
        cluster after rest
      else if letter = 'h' then do
        let after ← progress.flag .help
        cluster after rest
      else if letter = 'o' then
        match rest with
        | [] => progress.begin .output none
        | '=' :: value => progress.attach .output value
        | value => progress.attach .output value
      else
        .error (.usage (.unknown (String.ofList ['-', letter])))

/-- The word looks like no argument: it is the value of an argument that waits
for one, or it stands for itself. -/
def plain (progress : Progress) (word : String) : Except Stop Progress :=
  match progress.pending with
  | some ⟨argument, none⟩ =>
      .ok { progress with pending := some ⟨argument, some word⟩ }
  | _ => progress.positional word

def word (progress : Progress) (word : String) : Except Stop Progress :=
  if progress.positionalOnly then
    progress.positional word
  else
    match Word.ofChars word.toList with
    | .separator => .ok { progress with positionalOnly := true }
    | .long name value => progress.long name value
    | .cluster letters => progress.cluster letters
    | .plain => progress.plain word

/-- The output path of the command line, or else of the environment, or else
the default. -/
def outputPath (given : Given) (environment : Option String) : Except Stop String :=
  match given.output, environment with
  | some path, _ => .ok path
  | none, none => .ok defaultOutput
  | none, some path =>
      if path.isEmpty then .error (.usage (.missingValue .output)) else .ok path

def finish (progress : Progress) (environment : Option String) : Except Stop Config := do
  let settled ← progress.settle
  let outputPath ← outputPath settled.given environment
  settled.given.config outputPath

end Progress

/-- Reads a command line, without the name of the program.  The environment may
hold an output path. -/
def parse (environment : Option String) (words : List String) : Except Stop Config := do
  let progress ← words.foldlM Progress.word {}
  progress.finish environment

end BitmapFont.CommandLine
