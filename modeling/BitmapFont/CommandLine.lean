import BitmapFont.Compile
import BitmapFont.Text.Printed
import BitmapFont.Text.Shown

/-!
# Arguments and configurations

The arguments that the compiler takes, the configuration that a command line
describes, and the ways in which a command line can be wrong.
-/

namespace BitmapFont.CommandLine

inductive ValueArgument where
  | font
  | output
  | preview
  | glyphHeight
  deriving Repr, DecidableEq

inductive Flag where
  | exactWidth
  | verbose
  | help
  deriving Repr, DecidableEq

def ValueArgument.display : ValueArgument → String
  | font => "<FONT>"
  | output => "-o <PATH>"
  | preview => "--preview <CHARS>"
  | glyphHeight => "--glyph-height <ROWS>"

def Flag.display : Flag → String
  | exactWidth => "--exact-width"
  | verbose => "--verbose..."
  | help => "--help"

structure Config extends Job where
  preview : Option String
  verbosity : Nat
  deriving Repr, DecidableEq

def defaultOutput : String := "font.out"

def maxVerbosity : Nat := 255

def outputVariable : String := "FONT_COMPILER_OUTPUT"

inductive HeightFault where
  | empty
  | invalidDigit
  | tooLarge
  | tooSmall
  | outOfRange (value : Int)
  deriving Repr, DecidableEq

def HeightFault.message : HeightFault → String
  | empty => "cannot parse integer from empty string"
  | invalidDigit => "invalid digit found in string"
  | tooLarge => "number too large to fit in target type"
  | tooSmall => "number too small to fit in target type"
  | outOfRange value => s!"{value} is not in 1..=255"

inductive UsageError where
  | missingFont
  | unknown (word : String)
  | missingValue (argument : ValueArgument)
  | invalidHeight (text : String) (fault : HeightFault)
  | repeatedValue (argument : ValueArgument)
  | repeatedFlag (flag : Flag)
  | unneededValue (flag : Flag) (text : String)
  deriving Repr, DecidableEq

def quoteInput (medium : Text.Medium) (text : String) : String :=
  "'" ++ Text.shown medium text ++ "'"

def UsageError.sentence (medium : Text.Medium) : UsageError → String
  | missingFont => "the following required arguments were not provided:"
  | unknown word => "unexpected argument " ++ quoteInput medium word ++ " found"
  | missingValue argument =>
      "a value is required for '" ++ argument.display ++ "' but none was supplied"
  | invalidHeight text fault =>
      "invalid value " ++ quoteInput medium text ++ " for '" ++ ValueArgument.glyphHeight.display ++
        "': " ++ fault.message
  | repeatedValue argument =>
      "the argument '" ++ argument.display ++ "' cannot be used multiple times"
  | repeatedFlag flag => "the argument '" ++ flag.display ++ "' cannot be used multiple times"
  | unneededValue flag text =>
      "unexpected value " ++ quoteInput medium text ++ " for '" ++ flag.display ++
        "' found; no more were expected"

def UsageError.message (medium : Text.Medium) (error : UsageError) : String :=
  Text.firstLine ("error: " ++ error.sentence medium)

inductive Stop where
  | help
  | usage (error : UsageError)
  deriving Repr, DecidableEq

end BitmapFont.CommandLine
