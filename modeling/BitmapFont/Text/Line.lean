/-!
# Lines of a text

A text falls into lines at its breaks.  There are ten break characters, and a
carriage return directly followed by a line feed is one break, not two.  A
break separates: a text with `n` breaks has `n + 1` lines, the last of which is
empty when the text ends in a break.

`LineCursor` hands the lines out one at a time and `lines` lists them all by
recursion on the characters.
-/

namespace BitmapFont.Text

def isLineBreak (c : Char) : Bool :=
  c == '\n' || c == '\x0b' || c == '\x0c' || c == '\r' || c == '\x1c' || c == '\x1d' ||
    c == '\x1e' || c == '\u0085' || c == '\u2028' || c == '\u2029'

/-- What follows the break at the head of a text. -/
def dropBreak : List Char → List Char
  | '\r' :: '\n' :: rest => rest
  | _ :: rest => rest
  | [] => []

theorem length_dropBreak_le (text : List Char) :
    (dropBreak text).length ≤ text.length - 1 := by
  unfold dropBreak
  split <;> simp

def lines : List Char → List (List Char)
  | [] => [[]]
  | '\r' :: '\n' :: rest => [] :: lines rest
  | c :: rest =>
      if isLineBreak c then
        [] :: lines rest
      else
        match lines rest with
        | [] => [[c]]
        | line :: more => (c :: line) :: more

/-- The number of breaks in a text. -/
def breakCount : List Char → Nat
  | [] => 0
  | '\r' :: '\n' :: rest => breakCount rest + 1
  | c :: rest => breakCount rest + (if isLineBreak c then 1 else 0)

/-- A text of which some lines have been taken: what follows the last break
taken, or nothing once the last line is gone. -/
structure LineCursor where
  rest : Option (List Char)
  deriving Repr, DecidableEq

namespace LineCursor

def ofText (text : List Char) : LineCursor :=
  ⟨some text⟩

def next (cursor : LineCursor) : Option (List Char × LineCursor) :=
  match cursor.rest with
  | none => none
  | some text =>
      let line := text.takeWhile fun c => !isLineBreak c
      match text.dropWhile fun c => !isLineBreak c with
      | [] => some (line, ⟨none⟩)
      | rest@(_ :: _) => some (line, ⟨some (dropBreak rest)⟩)

def size (cursor : LineCursor) : Nat :=
  match cursor.rest with
  | none => 0
  | some text => text.length + 1

@[simp] theorem size_ofText (text : List Char) :
    (ofText text).size = text.length + 1 := rfl

theorem size_next
    {cursor after : LineCursor} {line : List Char}
    (hnext : cursor.next = some (line, after)) :
    after.size < cursor.size := by
  obtain ⟨rest⟩ := cursor
  cases rest with
  | none =>
      simp [next] at hnext
  | some text =>
      simp only [next] at hnext
      split at hnext
      · simp only [Option.some.injEq, Prod.mk.injEq] at hnext
        obtain ⟨-, rfl⟩ := hnext
        simp [size]
      · rename_i c tail hdrop
        simp only [Option.some.injEq, Prod.mk.injEq] at hnext
        obtain ⟨-, rfl⟩ := hnext
        have hshort :
            (text.dropWhile fun c => !isLineBreak c).length ≤ text.length :=
          (List.dropWhile_sublist _).length_le
        rw [hdrop] at hshort
        have hbreak := length_dropBreak_le (c :: tail)
        simp only [List.length_cons] at hshort hbreak
        simp only [size]
        omega

def countFrom (cursor : LineCursor) (counted : Nat) : Nat :=
  match _hnext : cursor.next with
  | none => counted
  | some (_, after) => countFrom after (counted + 1)
termination_by cursor.size
decreasing_by exact size_next _hnext

def count (cursor : LineCursor) : Nat :=
  cursor.countFrom 0

end LineCursor

end BitmapFont.Text
