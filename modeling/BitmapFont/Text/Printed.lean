/-!
# Lines of printed text

Printed text falls into lines at its line feeds.  A line feed ends a line and
starts none, so a text that ends in one has no empty line behind it, and a
carriage return directly before a line feed belongs to the line's end.
-/

namespace BitmapFont.Text

def printedLines : List Char → List (List Char)
  | [] => []
  | '\n' :: rest => [] :: printedLines rest
  | '\r' :: '\n' :: rest => [] :: printedLines rest
  | c :: rest =>
      match printedLines rest with
      | [] => [[c]]
      | line :: more => (c :: line) :: more

/-- The lines of several texts that are each printed with a line feed behind
them. -/
def linesOfPrinted (texts : List String) : List String :=
  texts.flatMap fun text => (printedLines (text.toList ++ ['\n'])).map String.ofList

def firstLine (text : String) : String :=
  String.ofList ((printedLines text.toList).headD [])

end BitmapFont.Text
