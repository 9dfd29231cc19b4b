import BitmapFont.Cursor
import BitmapFont.Row
import BitmapFont.Text.Line
import BitmapFont.Text.Space

/-!
# The rows of a source

`RowCursor` hands out the packed glyph rows of a source in order.  White space
at the very start of the source is skipped, so the first row may be indented,
but line numbers count from the start of the source.  A row that is refused is
an item like any other and changes nothing about the rows behind it.

What it reports goes through the gate of its log, in the midst of the search for
the next row.  `GatedRows` has a gate of its own.
-/

namespace BitmapFont

abbrev RowItem := Except WidthError UInt8

structure RowCursor where
  lines : Text.LineCursor
  /-- The number of the line examined last. -/
  lineNumber : Nat
  policy : WidthPolicy
  deriving Repr, DecidableEq

namespace RowCursor

def ofText (text : List Char) (policy : WidthPolicy) : RowCursor :=
  let blank := text.takeWhile Text.isLeadingSpace
  let content := text.dropWhile Text.isLeadingSpace
  { lines := .ofText content
    lineNumber := (Text.LineCursor.ofText blank).count - 1
    policy }

def nextFrom (gate : Gate) (cursor : RowCursor) (log : Array Event) :
    Pull RowCursor RowItem :=
  match _hline : cursor.lines.next with
  | none => ⟨none, log.toList, cursor⟩
  | some (line, lines) =>
      let number := cursor.lineNumber + 1
      let after : RowCursor := { cursor with lines, lineNumber := number }
      match RowToken.ofLine? number line with
      | none => nextFrom gate after (gate.report log (.noRow number))
      | some token =>
          match token.pack cursor.policy with
          | .ok byte =>
              ⟨some (.ok byte), (gate.report log (.packed number token.markers byte)).toList,
                after⟩
          | .error error => ⟨some (.error error), log.toList, after⟩
termination_by cursor.lines.size
decreasing_by exact Text.LineCursor.size_next _hline

theorem nextFrom_of_end
    {cursor : RowCursor} (gate : Gate) (log : Array Event) (hline : cursor.lines.next = none) :
    cursor.nextFrom gate log = ⟨none, log.toList, cursor⟩ := by
  rw [nextFrom]
  split <;> simp_all

theorem nextFrom_of_line
    {cursor : RowCursor} {line : List Char} {lines : Text.LineCursor} (gate : Gate)
    (log : Array Event) (hline : cursor.lines.next = some (line, lines)) :
    cursor.nextFrom gate log =
      let number := cursor.lineNumber + 1
      let after : RowCursor := { cursor with lines, lineNumber := number }
      match RowToken.ofLine? number line with
      | none => after.nextFrom gate (gate.report log (.noRow number))
      | some token =>
          match token.pack cursor.policy with
          | .ok byte =>
              ⟨some (.ok byte), (gate.report log (.packed number token.markers byte)).toList, after⟩
          | .error error => ⟨some (.error error), log.toList, after⟩ := by
  rw [nextFrom]
  split
  · simp_all
  · rename_i first rest hfirst
    obtain ⟨rfl, rfl⟩ := Prod.mk.inj (Option.some.inj (hline.symm.trans hfirst))
    rfl

def next (cursor : RowCursor) : Pull RowCursor RowItem :=
  cursor.nextFrom .wide #[]

theorem size_nextFrom
    (gate : Gate) (cursor : RowCursor) (log : Array Event) (item : RowItem)
    (hitem : (cursor.nextFrom gate log).item = some item) :
    (cursor.nextFrom gate log).rest.lines.size < cursor.lines.size := by
  fun_induction nextFrom gate cursor log with
  | case1 => simp at hitem
  | case2 cursor log line lines hline number after hrow ih =>
      have hshort := Text.LineCursor.size_next hline
      exact Nat.lt_trans (ih hitem) hshort
  | case3 => exact Text.LineCursor.size_next (by assumption)
  | case4 => exact Text.LineCursor.size_next (by assumption)

instance : Cursor RowCursor RowItem where
  next := next
  size cursor := cursor.lines.size
  size_next cursor := cursor.size_nextFrom .wide #[]

end RowCursor

/-- A row cursor with a gate to its log. -/
structure GatedRows where
  gate : Gate
  rows : RowCursor

instance : Cursor GatedRows RowItem where
  next gated :=
    let pull := gated.rows.nextFrom gated.gate #[]
    ⟨pull.item, pull.events, ⟨gated.gate, pull.rest⟩⟩
  size gated := gated.rows.lines.size
  size_next gated := gated.rows.size_nextFrom gated.gate #[]

def gatedRows (gate : Gate) (text : List Char) (policy : WidthPolicy) : GatedRows :=
  ⟨gate, .ofText text policy⟩

end BitmapFont
