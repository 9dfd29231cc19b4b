/-!
# Words of a command line

What a word is by its own looks, before anything is known about the arguments
that a program takes.
-/

namespace BitmapFont.CommandLine

inductive Word where
  /-- Two hyphens alone. -/
  | separator
  | long (name : List Char) (value : Option (List Char))
  /-- One hyphen and at least one letter. -/
  | cluster (letters : List Char)
  /-- Anything else, a hyphen alone included. -/
  | plain
  deriving Repr, DecidableEq

def splitEquals (text : List Char) : List Char × Option (List Char) :=
  match text.dropWhile (· != '=') with
  | [] => (text, none)
  | _ :: value => (text.takeWhile (· != '='), some value)

def Word.ofChars : List Char → Word
  | ['-', '-'] => .separator
  | '-' :: '-' :: rest => .long (splitEquals rest).1 (splitEquals rest).2
  | '-' :: letter :: rest => .cluster (letter :: rest)
  | _ => .plain

end BitmapFont.CommandLine
