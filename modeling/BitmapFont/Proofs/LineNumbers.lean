import BitmapFont.Proofs.LineRecords
import BitmapFont.Text.Utf8

/-!
# Line numbers

Whatever has been asked of a row cursor, the number of the line that it examined last and
the lines that it has still to take make up the lines of the whole source.  A request moves
lines from one side to the other, one by one, and at the start the lines of the leading
space are on the side of the number, but for the one that the space ends in.

So a number never exceeds the number of lines, which is at most one more than the bytes of
the source, and a request ends after as many turns as there are lines left and one more.
`nextWithin?` makes both visible: it has a largest number and a number of turns, and gives
nothing where one of them does not suffice.
-/

namespace BitmapFont

open Text

/-! ## Lines that are left -/

namespace Text

namespace LineCursor

theorem count_eq (cursor : LineCursor) : cursor.count = cursor.toList.length := by
  rw [count, countFrom_eq, Nat.zero_add]

theorem count_of_next
    {cursor after : LineCursor} {line : List Char}
    (hnext : cursor.next = some (line, after)) : cursor.count = after.count + 1 := by
  rw [count_eq, count_eq, toList_of_next_eq_some hnext, List.length_cons]

theorem count_eq_zero_iff {cursor : LineCursor} : cursor.count = 0 ↔ cursor.next = none := by
  cases hnext : cursor.next with
  | none => simp [count_eq, toList_of_next_eq_none hnext]
  | some found => simp [count_of_next hnext]

/-- A request passes a part of the text that is left, or ends the splitting. -/
theorem next_shortens
    {cursor after : LineCursor} {line : List Char}
    (hnext : cursor.next = some (line, after)) :
    after.rest = none ∨
      ∃ passed rest, passed ≠ [] ∧ cursor.rest = some (passed ++ rest) ∧
        after.rest = some rest := by
  obtain ⟨rest⟩ := cursor
  cases rest with
  | none => contradiction
  | some text =>
      simp only [next] at hnext
      split at hnext
      · simp only [Option.some.injEq, Prod.mk.injEq] at hnext
        obtain ⟨-, rfl⟩ := hnext
        exact .inl rfl
      · rename_i c tail hdrop
        simp only [Option.some.injEq, Prod.mk.injEq] at hnext
        obtain ⟨-, rfl⟩ := hnext
        obtain ⟨front, hfront⟩ := dropBreak_suffix (c :: tail)
        have hpassed : front ≠ [] := by
          rintro rfl
          have hshort := length_dropBreak_le (c :: tail)
          rw [List.nil_append] at hfront
          rw [hfront] at hshort
          simp at hshort
        refine .inr
          ⟨(text.takeWhile fun c => !isLineBreak c) ++ front, _, by simp [hpassed], ?_, rfl⟩
        rw [List.append_assoc, hfront, ← hdrop, List.takeWhile_append_dropWhile]

end LineCursor

theorem breakCount_le_length (text : List Char) : breakCount text ≤ text.length := by
  fun_induction breakCount text with
  | case1 => exact Nat.le_refl 0
  | case2 rest ih =>
      simp only [List.length_cons]
      omega
  | case3 c rest hsingle ih =>
      simp only [List.length_cons]
      split <;> omega

end Text

/-! ## Numbers and lines together -/

namespace RowCursor

/-- The cursor behind so many requests. -/
def advance (cursor : RowCursor) : Nat → RowCursor
  | 0 => cursor
  | calls + 1 => (cursor.advance calls).next.rest

/-- The lines that the cursor has counted and those that are left. -/
def lineTotal (cursor : RowCursor) : Nat :=
  cursor.lineNumber + cursor.lines.count

theorem lineTotal_of_line
    {cursor : RowCursor} {line : List Char} {lines : LineCursor}
    (hline : cursor.lines.next = some (line, lines)) :
    lineTotal { cursor with lines, lineNumber := cursor.lineNumber + 1 } = cursor.lineTotal := by
  simp only [lineTotal, LineCursor.count_of_next hline]
  omega

theorem lineTotal_nextFrom (gate : Gate) (cursor : RowCursor) (log : Array Event) :
    (cursor.nextFrom gate log).rest.lineTotal = cursor.lineTotal := by
  fun_induction nextFrom gate cursor log with
  | case1 => rfl
  | case2 cursor log line lines hline number after hrow ih =>
      exact ih.trans (lineTotal_of_line hline)
  | case3 cursor log line lines hline => exact lineTotal_of_line hline
  | case4 cursor log line lines hline => exact lineTotal_of_line hline

theorem lineTotal_advance (cursor : RowCursor) (calls : Nat) :
    (cursor.advance calls).lineTotal = cursor.lineTotal := by
  induction calls with
  | zero => rfl
  | succ calls ih => exact (lineTotal_nextFrom .wide _ #[]).trans ih

theorem lineNumber_ofText (text : List Char) (policy : WidthPolicy) :
    (ofText text policy).lineNumber = blankBreaks text := by
  simp [ofText, LineCursor.count_ofText, length_lines, blankBreaks]

theorem lineTotal_ofText (text : List Char) (policy : WidthPolicy) :
    (ofText text policy).lineTotal = breakCount text + 1 := by
  obtain ⟨front, last, hfront, -, -, hlines⟩ := exists_blank_lines text
  have hleft : (ofText text policy).lines.count =
      (Text.lines (text.dropWhile isLeadingSpace)).length := LineCursor.count_ofText _
  rw [lineTotal, lineNumber_ofText, hleft, ← length_lines, hlines, List.length_append,
    List.length_modifyHead, hfront]

/-! ## The end -/

/-- A request without an item has taken all lines. -/
theorem spent_of_nextFrom
    {gate : Gate} {cursor : RowCursor} {log : Array Event}
    (hitem : (cursor.nextFrom gate log).item = none) :
    (cursor.nextFrom gate log).rest.lines.next = none := by
  fun_induction nextFrom gate cursor log with
  | case1 cursor log hline => exact hline
  | case2 cursor log line lines hline number after hrow ih => exact ih hitem
  | case3 => contradiction
  | case4 => contradiction

theorem next_of_spent {cursor : RowCursor} (hspent : cursor.lines.next = none) :
    cursor.next = ⟨none, [], cursor⟩ :=
  nextFrom_of_end .wide #[] hspent

theorem advance_of_spent
    {cursor : RowCursor} (hspent : cursor.lines.next = none) (calls : Nat) :
    cursor.advance calls = cursor := by
  induction calls with
  | zero => rfl
  | succ calls ih => rw [advance, ih, next_of_spent hspent]

theorem toList_advance (cursor : RowCursor) (calls : Nat) :
    (cursor.advance calls).toList = cursor.toList.drop calls := by
  induction calls with
  | zero => rfl
  | succ calls ih => rw [advance, ← List.tail_drop, ← ih]; exact listing.rest _

theorem item_advance (cursor : RowCursor) (calls : Nat) :
    (cursor.advance calls).next.item = cursor.toList[calls]? := by
  rw [← List.head?_drop, ← toList_advance]
  exact listing.item _

theorem length_toList_le (cursor : RowCursor) : cursor.toList.length ≤ cursor.lines.count := by
  rw [toList, List.length_map, LineCursor.count_eq]
  refine (List.length_filterMap_le _ _).trans ?_
  rw [List.length_zipIdx]

end RowCursor

/-! ## Words -/

/-- One more, unless that is beyond the largest number of a word. -/
def increment? (max number : Nat) : Option Nat :=
  if number < max then some (number + 1) else none

/-- One less, unless there is none. -/
def decrement? : Nat → Option Nat
  | 0 => none
  | number + 1 => some number

theorem increment?_of_lt {max number : Nat} (hnumber : number < max) :
    increment? max number = some (number + 1) :=
  if_pos hnumber

namespace Text.LineCursor

def countWithin? (max : Nat) (cursor : LineCursor) (counted : Nat) : Option Nat :=
  match _hnext : cursor.next with
  | none => some counted
  | some (_, after) => do
      let more ← increment? max counted
      countWithin? max after more
termination_by cursor.size
decreasing_by exact size_next _hnext

theorem countWithin?_eq
    {max counted : Nat} {cursor : LineCursor} (hmax : counted + cursor.count ≤ max) :
    cursor.countWithin? max counted = some (counted + cursor.count) := by
  fun_induction countWithin? max cursor counted with
  | case1 cursor counted hnext => simp [count_eq_zero_iff.mpr hnext]
  | case2 cursor counted line after hnext ih =>
      have hcount := count_of_next hnext
      rw [increment?_of_lt (by omega), Option.bind_eq_bind, Option.bind_some,
        ih (counted + 1) (by omega)]
      congr 1
      omega

end Text.LineCursor

namespace RowCursor

/-- The cursor of a text, with words for numbers. -/
def ofTextWithin? (max : Nat) (text : List Char) (policy : WidthPolicy) : Option RowCursor := do
  let counted ← (LineCursor.ofText (text.takeWhile isLeadingSpace)).countWithin? max 0
  let lineNumber ← decrement? counted
  some { lines := .ofText (text.dropWhile isLeadingSpace), lineNumber, policy }

/-- A request that takes no more than so many turns, one for each line and one to find
that there are no more of them. -/
def nextWithin? (max : Nat) : Nat → RowCursor → Option (Option RowItem × RowCursor)
  | 0, _ => none
  | turns + 1, cursor =>
      match cursor.lines.next with
      | none => some (none, cursor)
      | some (line, lines) => do
          let number ← increment? max cursor.lineNumber
          let after : RowCursor := { cursor with lines, lineNumber := number }
          match RowToken.ofLine? number line with
          | none => nextWithin? max turns after
          | some token => some (some (token.pack cursor.policy), after)

theorem increment?_of_line
    {max : Nat} {cursor : RowCursor} {line : List Char} {lines : LineCursor}
    (hline : cursor.lines.next = some (line, lines)) (hmax : cursor.lineTotal ≤ max) :
    increment? max cursor.lineNumber = some (cursor.lineNumber + 1) := by
  have hcount := LineCursor.count_of_next hline
  unfold lineTotal at hmax
  exact increment?_of_lt (by omega)

theorem nextWithin?_of_line
    {max : Nat} {cursor : RowCursor} {line : List Char} {lines : LineCursor} (turns : Nat)
    (hline : cursor.lines.next = some (line, lines)) (hmax : cursor.lineTotal ≤ max) :
    let after : RowCursor := { cursor with lines, lineNumber := cursor.lineNumber + 1 }
    cursor.nextWithin? max (turns + 1) =
      match RowToken.ofLine? (cursor.lineNumber + 1) line with
      | none => after.nextWithin? max turns
      | some token => some (some (token.pack cursor.policy), after) := by
  rw [nextWithin?, hline]
  simp only [increment?_of_line hline hmax, Option.bind_eq_bind, Option.bind_some]

theorem nextWithin?_eq_nextFrom
    {max turns : Nat} {cursor : RowCursor} (gate : Gate) {log : Array Event}
    (hturns : cursor.lines.count < turns) (hmax : cursor.lineTotal ≤ max) :
    cursor.nextWithin? max turns =
      some ((cursor.nextFrom gate log).item, (cursor.nextFrom gate log).rest) := by
  obtain ⟨turns, rfl⟩ : ∃ fewer, turns = fewer + 1 :=
    Nat.exists_eq_add_one_of_ne_zero (Nat.ne_zero_of_lt hturns)
  fun_induction nextFrom gate cursor log generalizing turns with
  | case1 cursor log hline => simp [nextWithin?, hline]
  | case2 cursor log line lines hline number after hrow ih =>
      have hcount := LineCursor.count_of_next hline
      -- A turn that finds no row has taken a line, so the turns that are left suffice.
      have hleft : after.lines.count < turns := by
        change lines.count < turns
        omega
      obtain ⟨fewer, rfl⟩ : ∃ fewer, turns = fewer + 1 :=
        Nat.exists_eq_add_one_of_ne_zero (Nat.ne_zero_of_lt hleft)
      have htotal : after.lineTotal ≤ max := (lineTotal_of_line hline).trans_le hmax
      rw [nextWithin?_of_line _ hline hmax, hrow]
      exact ih htotal fewer hleft
  | case3 cursor log line lines hline number after token hrow byte hpack =>
      rw [nextWithin?_of_line turns hline hmax, hrow]
      simp only [hpack]
      rfl
  | case4 cursor log line lines hline number after token hrow error hpack =>
      rw [nextWithin?_of_line turns hline hmax, hrow]
      simp only [hpack]
      rfl

theorem count_leadingSpace (text : List Char) (policy : WidthPolicy) :
    (LineCursor.ofText (text.takeWhile isLeadingSpace)).count =
      (ofText text policy).lineNumber + 1 := by
  rw [LineCursor.count_ofText, length_lines, lineNumber_ofText, blankBreaks]

theorem lineNumber_ofText_lt (text : List Char) (policy : WidthPolicy) :
    (ofText text policy).lineNumber < breakCount text + 1 := by
  have hleft : (ofText text policy).lines.count =
      (Text.lines (text.dropWhile isLeadingSpace)).length := LineCursor.count_ofText _
  have hpos := List.length_pos_iff.mpr (lines_ne_nil (text.dropWhile isLeadingSpace))
  rw [← lineTotal_ofText text policy, lineTotal]
  omega

theorem ofTextWithin?_eq
    {max : Nat} {text : List Char} (policy : WidthPolicy) (hmax : breakCount text + 1 ≤ max) :
    ofTextWithin? max text policy = some (ofText text policy) := by
  have hspace := count_leadingSpace text policy
  have hnumber := lineNumber_ofText_lt text policy
  have hcounted : (LineCursor.ofText (text.takeWhile isLeadingSpace)).countWithin? max 0 =
      some ((ofText text policy).lineNumber + 1) := by
    rw [LineCursor.countWithin?_eq (by omega), hspace, Nat.zero_add]
  rw [ofTextWithin?, hcounted]
  rfl

/-! ## The account -/

/-- What holds of the cursor of a text at every moment. -/
structure LinesAccounted (text : List Char) (policy : WidthPolicy) : Prop where
  conserved : ∀ calls,
    let cursor := (ofText text policy).advance calls
    cursor.lineNumber + cursor.lines.count = breakCount text + 1
  bounded : ∀ calls,
    ((ofText text policy).advance calls).lineNumber ≤ (encodeUtf8 text).length + 1
  /-- The line that the leading space ends in is counted with those in front of it, so
  there is one to be taken off. -/
  skipped : (LineCursor.ofText (text.takeWhile isLeadingSpace)).count =
    (ofText text policy).lineNumber + 1
  /-- Words suffice if their largest number exceeds the bytes of the text, and every request
  ends. -/
  checked : ∀ max, (encodeUtf8 text).length < max →
    ofTextWithin? max text policy = some (ofText text policy) ∧
    ∀ calls,
      let cursor := (ofText text policy).advance calls
      cursor.nextWithin? max (cursor.lines.count + 1) =
        some (cursor.next.item, (ofText text policy).advance (calls + 1))
  /-- The first request without an item takes the lines that are left, and those behind it
  change nothing. -/
  ended : ∃ items ≤ breakCount text + 1,
    (∀ calls < items, ((ofText text policy).advance calls).next.item.isSome = true) ∧
    ∀ calls ≥ items,
      ((ofText text policy).advance calls).next.item = none ∧
      (ofText text policy).advance (calls + 1) = (ofText text policy).advance (items + 1) ∧
      ((ofText text policy).advance (calls + 1)).lineNumber = breakCount text + 1

theorem lineTotal_reached (text : List Char) (policy : WidthPolicy) (calls : Nat) :
    ((ofText text policy).advance calls).lineTotal = breakCount text + 1 :=
  (lineTotal_advance _ calls).trans (lineTotal_ofText text policy)

theorem lineNumber_of_spent
    {text : List Char} {policy : WidthPolicy} {calls : Nat}
    (hspent : ((ofText text policy).advance calls).lines.next = none) :
    ((ofText text policy).advance calls).lineNumber = breakCount text + 1 := by
  have htotal := lineTotal_reached text policy calls
  rwa [lineTotal, LineCursor.count_eq_zero_iff.mpr hspent, Nat.add_zero] at htotal

theorem advance_add (cursor : RowCursor) (calls more : Nat) :
    cursor.advance (calls + more) = (cursor.advance calls).advance more := by
  induction more with
  | zero => rfl
  | succ more ih => rw [← Nat.add_assoc, advance, ih, advance]

theorem linesAccounted (text : List Char) (policy : WidthPolicy) : LinesAccounted text policy where
  conserved := lineTotal_reached text policy
  bounded calls := by
    have htotal := lineTotal_reached text policy calls
    have hbreaks := breakCount_le_length text
    have hbytes := length_le_length_encodeUtf8 text
    unfold lineTotal at htotal
    omega
  skipped := count_leadingSpace text policy
  checked max hmax := by
    have hbreaks := breakCount_le_length text
    have hbytes := length_le_length_encodeUtf8 text
    refine ⟨ofTextWithin?_eq policy (by omega), fun calls => ?_⟩
    have htotal := lineTotal_reached text policy calls
    exact nextWithin?_eq_nextFrom .wide (Nat.lt_succ_self _) (by omega)
  ended := by
    refine ⟨(ofText text policy).toList.length, ?_, ?_, ?_⟩
    · have hitems := length_toList_le (ofText text policy)
      have htotal := lineTotal_ofText text policy
      unfold lineTotal at htotal
      omega
    · intro calls hcalls
      rw [item_advance, List.getElem?_eq_getElem hcalls, Option.isSome_some]
    · intro calls hcalls
      have hitem (calls : Nat) (hcalls : (ofText text policy).toList.length ≤ calls) :
          ((ofText text policy).advance calls).next.item = none := by
        rw [item_advance, List.getElem?_eq_none hcalls]
      have hspent (calls : Nat) (hcalls : (ofText text policy).toList.length ≤ calls) :
          ((ofText text policy).advance (calls + 1)).lines.next = none :=
        spent_of_nextFrom (hitem calls hcalls)
      refine ⟨hitem calls hcalls, ?_, lineNumber_of_spent (hspent calls hcalls)⟩
      obtain ⟨more, rfl⟩ := Nat.exists_eq_add_of_le hcalls
      rw [Nat.add_right_comm, advance_add, advance_of_spent (hspent _ (Nat.le_refl _))]

end RowCursor

/-- Lines that are taken get their numbers, and none of them is lost or numbered twice: the
number of the last line and the lines that are left always add up to the lines of the text.
A request for a line passes a part of the text or ends the splitting, so every request for a
row ends, and no number on the way outgrows a word that can measure the text. -/
theorem lines_accounted_for (text : List Char) :
    (∀ (cursor after : LineCursor) (line : List Char), cursor.next = some (line, after) →
      after.rest = none ∨
        ∃ passed rest, passed ≠ [] ∧ cursor.rest = some (passed ++ rest) ∧
          after.rest = some rest) ∧
    ∀ policy, RowCursor.LinesAccounted text policy :=
  ⟨fun _ _ _ hnext => LineCursor.next_shortens hnext, RowCursor.linesAccounted text⟩

/-- Three lines with two rows, in eight bytes. -/
theorem lines_accounted_for_two_rows :
    let text : List Char := [' ', '\r', '\n', '*', '\u2028', '@']
    let cursor := RowCursor.ofText text .exact
    (LineCursor.ofText text).next = some ([' '], ⟨some ['*', '\u2028', '@']⟩) ∧
      (∃ passed, passed ≠ [] ∧ text = passed ++ ['*', '\u2028', '@']) ∧
      RowCursor.ofTextWithin? 9 text .exact = some cursor ∧
      (∀ calls, (cursor.advance calls).lineNumber + (cursor.advance calls).lines.count = 3) ∧
      ∃ items ≤ 3, (cursor.advance items).next.item = none := by
  intro text cursor
  obtain ⟨hshortens, haccounted⟩ := lines_accounted_for text
  have hnext : (LineCursor.ofText text).next = some ([' '], ⟨some ['*', '\u2028', '@']⟩) := rfl
  have hbytes : (encodeUtf8 text).length < 9 := by decide
  refine ⟨hnext, ?_, ((haccounted .exact).checked 9 hbytes).1, (haccounted .exact).conserved, ?_⟩
  · rcases hshortens _ _ _ hnext with hended | ⟨passed, rest, hpassed, htext, hrest⟩
    · contradiction
    · obtain rfl := Option.some.inj hrest
      exact ⟨passed, hpassed, Option.some.inj htext⟩
  · obtain ⟨items, hitems, -, hended⟩ := (haccounted .exact).ended
    exact ⟨items, hitems, (hended items (Nat.le_refl _)).1⟩

end BitmapFont
