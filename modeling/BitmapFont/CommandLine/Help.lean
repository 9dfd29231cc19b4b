import BitmapFont.CommandLine

/-!
# The help text

The help text shows the environment's output path, if there is one; a line
break in it is followed by the indentation of its column.  The names of the
arguments are set in a style of their own, so a control sequence that the path
leaves open reaches as far as the next name.
-/

namespace BitmapFont.CommandLine

def descriptionColumn : Nat := 29

def inColumn (text : String) : String :=
  String.ofList <| text.toList.flatMap fun c =>
    if c = '\n' then c :: List.replicate descriptionColumn ' ' else [c]

/-- The text from the value of the environment's output path to the next name. -/
def environmentPart (medium : Text.Medium) (environment : Option String) : String :=
  Text.shown medium
    (inColumn (environment.getD "") ++ "] [default: " ++ defaultOutput ++ "]\n      ")

def helpText (medium : Text.Medium) (environment : Option String) : String :=
  "\n".intercalate [
    "Compiles an ASCII-art bitmap font into packed glyph rows",
    "",
    "Usage: font-compiler [OPTIONS] <FONT>",
    "",
    "Arguments:",
    "  <FONT>  Path to the ASCII-art font source",
    "",
    "Options:",
    "  -o <PATH>                  Path to the output file [env: " ++ outputVariable ++ "=" ++
      environmentPart medium environment ++
      "--exact-width          Reject glyph rows narrower than 8 pixels",
    "      --preview <CHARS>      Render the glyphs of CHARS from the compiled output",
    "      --glyph-height <ROWS>  Number of rows in each glyph, used by --preview [default: 16]",
    "  -v, --verbose...           Increase logging verbosity",
    "  -h, --help                 Print help",
    ""]

end BitmapFont.CommandLine
