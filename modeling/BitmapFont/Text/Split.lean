/-!
# Splitting

A list falls into parts at a separator, one part more than it has separators.
-/

namespace BitmapFont.Text

variable {α : Type} [DecidableEq α]

def splitAround (separator : α) (items : List α) : List (List α) :=
  let (first, others) := items.foldr
    (fun item (part, others) =>
      if item = separator then ([], part :: others) else (item :: part, others))
    (([], []) : List α × List (List α))
  first :: others

end BitmapFont.Text
