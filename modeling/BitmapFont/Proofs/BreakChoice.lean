import BitmapFont.Proofs.CursorAgreement
import BitmapFont.Proofs.LineRecords
import BitmapFont.Proofs.LineSplitting

/-!
# The choice of breaks

Lines can be put together to a text with any of the eleven breaks between them.  Unless a
return, an empty line and a line feed follow one another, which would then be read as one
break, the text falls into the same lines again.

Of a source nothing but its lines is ever seen.  The leading space ends in the first line
that is not blank, or in the last line if they all are, so the lines alone decide which of
them are examined and under which numbers.  With other breaks a source therefore has the
same rows, the same refusals on the same lines and the same records.
-/

namespace BitmapFont

namespace Text

/-! ## Lines put together -/

/-- Lines with a break behind each of them, as long as there are breaks. -/
def weave : List (List Char) → List (List Char) → List Char
  | line :: more, brk :: breaks => line ++ brk ++ weave more breaks
  | ls, _ => ls.flatten

/-- Breaks chosen to stand between lines, one less than there are lines.  A return and a
line feed are not chosen on both sides of an empty line. -/
structure BreaksBetween (ls breaks : List (List Char)) : Prop where
  length : breaks.length = ls.length - 1
  known : ∀ brk ∈ breaks, brk ∈ lineBreaks
  apart : ∀ i < breaks.length,
    ¬(breaks[i]? = some ['\r'] ∧ ls[i + 1]? = some [] ∧ breaks[i + 1]? = some ['\n'])

instance (ls breaks : List (List Char)) : Decidable (BreaksBetween ls breaks) :=
  decidable_of_iff
    (breaks.length = ls.length - 1 ∧ (∀ brk ∈ breaks, brk ∈ lineBreaks) ∧
      ∀ i < breaks.length,
        ¬(breaks[i]? = some ['\r'] ∧ ls[i + 1]? = some [] ∧ breaks[i + 1]? = some ['\n']))
    ⟨fun ⟨hlength, hknown, hapart⟩ => ⟨hlength, hknown, hapart⟩,
      fun hbetween => ⟨hbetween.length, hbetween.known, hbetween.apart⟩⟩

theorem BreaksBetween.tail
    {line brk : List Char} {more breaks : List (List Char)}
    (hbetween : BreaksBetween (line :: more) (brk :: breaks)) : BreaksBetween more breaks where
  length := by
    have hlength := hbetween.length
    simp only [List.length_cons] at hlength
    omega
  known other hother := hbetween.known other (List.mem_cons_of_mem brk hother)
  apart i hi := by
    have hapart := hbetween.apart (i + 1) (by simpa using hi)
    simpa using hapart

/-- Lines that are put together begin with a line feed only where an empty line and that
break come first. -/
theorem BreaksBetween.of_head?_weave
    {line : List Char} {more breaks : List (List Char)}
    (hbetween : BreaksBetween (line :: more) breaks) (hline : Unbroken line)
    (hfeed : (weave (line :: more) breaks).head? = some '\n') :
    line = [] ∧ breaks[0]? = some ['\n'] := by
  cases line with
  | cons c rest =>
      have hc : c = '\n' := by
        cases breaks <;> simpa [weave] using hfeed
      exact absurd (hline c List.mem_cons_self) (by rw [hc]; decide)
  | nil =>
      refine ⟨rfl, ?_⟩
      cases breaks with
      | nil =>
          have hmore : more = [] := List.length_eq_zero_iff.mp hbetween.length.symm
          simp [hmore, weave] at hfeed
      | cons brk breaks =>
          have hknown := hbetween.known brk List.mem_cons_self
          rw [weave, List.nil_append] at hfeed
          rw [List.getElem?_cons_zero, eq_feed_of_head?_append hknown hfeed]

theorem BreaksBetween.splits
    {ls breaks : List (List Char)} (hbetween : BreaksBetween ls breaks)
    (hunbroken : ∀ line ∈ ls, Unbroken line) (hls : ls ≠ []) :
    Splits (weave ls breaks) ls breaks := by
  induction ls generalizing breaks with
  | nil => contradiction
  | cons line more ih =>
      have hlength := hbetween.length
      rw [List.length_cons, Nat.add_sub_cancel] at hlength
      cases breaks with
      | nil =>
          obtain rfl : more = [] := List.length_eq_zero_iff.mp hlength.symm
          have hweave : weave [line] [] = line := by simp [weave]
          rw [hweave]
          exact .last (hunbroken line List.mem_cons_self)
      | cons brk breaks =>
          cases more with
          | nil => simp at hlength
          | cons next more =>
              have hlater : ∀ line ∈ next :: more, Unbroken line :=
                fun other hother => hunbroken other (List.mem_cons_of_mem line hother)
              refine .next rfl (hunbroken line List.mem_cons_self)
                (hbetween.known brk List.mem_cons_self) ?_
                (ih hbetween.tail hlater (List.cons_ne_nil _ _))
              rintro ⟨rfl, hfeed⟩
              obtain ⟨rfl, hbreak⟩ :=
                hbetween.tail.of_head?_weave (hlater next List.mem_cons_self) hfeed
              exact hbetween.apart 0 (by simp) ⟨rfl, rfl, by simpa using hbreak⟩

theorem BreaksBetween.lines_weave
    {ls breaks : List (List Char)} (hbetween : BreaksBetween ls breaks)
    (hunbroken : ∀ line ∈ ls, Unbroken line) (hls : ls ≠ []) : lines (weave ls breaks) = ls :=
  (hbetween.splits hunbroken hls).lines_eq

end Text

open Text

/-! ## What is seen of a source -/

/-- The blank lines in front are counted by the lines alone.  The last line is never
passed over, since the leading space ends in it at the latest. -/
theorem blankBreaks_eq (text : List Char) :
    blankBreaks text = ((lines text).dropLast.takeWhile isBlankLine).length := by
  obtain ⟨front, last, hlength, hfront, -, hlines⟩ := exists_blank_lines text
  have hcount :
      (lines text).dropLast.takeWhile isBlankLine = front := by
    rw [hlines]
    cases hcontent : text.dropWhile isLeadingSpace with
    | nil =>
        rw [lines_nil, List.modifyHead_cons, List.append_nil, List.dropLast_concat]
        exact List.takeWhile_eq_self_iff.mpr hfront
    | cons c rest =>
        have hc : isLeadingSpace c = false :=
          isLeadingSpace_of_head?_dropWhile (by rw [hcontent, List.head?_cons])
        obtain ⟨first, more, hrest⟩ := List.exists_cons_of_ne_nil (lines_ne_nil rest)
        have hink : isBlankLine (last ++ c :: first) = false := by
          simp [isBlankLine, hc]
        rw [lines_of_not_break rest (not_isLineBreak_of_not_isLeadingSpace hc), hrest,
          List.modifyHead_cons, List.modifyHead_cons,
          List.dropLast_append_of_ne_nil (List.cons_ne_nil _ _),
          List.takeWhile_append_of_pos hfront]
        -- What follows is empty or begins with a line that is not blank.
        cases more <;> simp [hink]
  rw [hcount, hlength]

theorem examinedLines_congr
    {text other : List Char} (policy : WidthPolicy) (hlines : lines text = lines other) :
    examinedLines policy text = examinedLines policy other := by
  have hblank : blankBreaks text = blankBreaks other := by
    rw [blankBreaks_eq, blankBreaks_eq, hlines]
  unfold examinedLines
  rw [hlines, hblank]

/-- Two sources that cannot be told apart. -/
structure ReadAlike (text other : List Char) : Prop where
  items : ∀ policy,
    Cursor.items (RowCursor.ofText text policy) = Cursor.items (RowCursor.ofText other policy)
  records : ∀ policy,
    (Cursor.collect (RowCursor.ofText text policy)).events =
      (Cursor.collect (RowCursor.ofText other policy)).events
  programs : ∀ policy program,
    Cursor.runOn program (RowCursor.ofText text policy) =
      Cursor.runOn program (RowCursor.ofText other policy)
  encode : encode text = encode other
  encodeWith : ∀ policy, encodeWith policy text = encodeWith policy other
  encodeInto : ∀ policy sink, encodeInto policy text sink = encodeInto policy other sink

theorem encodeWith_congr
    {text other : List Char} (policy : WidthPolicy) (hlines : lines text = lines other) :
    encodeWith policy text = encodeWith policy other := by
  rw [encodeWith_eq_feedEntries, encodeWith_eq_feedEntries, examinedLines_congr policy hlines]

theorem readAlike_of_lines_eq
    {text other : List Char} (hlines : lines text = lines other) : ReadAlike text other := by
  have hpending : ∀ policy,
      (RowCursor.ofText text policy).pending = (RowCursor.ofText other policy).pending := by
    intro policy
    rw [RowCursor.pending_ofText, RowCursor.pending_ofText, examinedLines_congr policy hlines]
  constructor
  · exact fun policy => (RowCursor.scan.collect_agree (hpending policy)).given
  · exact fun policy => (RowCursor.scan.collect_agree (hpending policy)).events
  · intro policy program
    exact RowCursor.scan.run_agree program (congrArg (fun entries => [entries]) (hpending policy))
  · exact encodeWith_congr .lenient hlines
  · exact fun policy => encodeWith_congr policy hlines
  · intro policy sink
    rw [encodeInto_eq_feedEntries, encodeInto_eq_feedEntries, examinedLines_congr policy hlines]

/-- Whichever breaks are chosen between its lines, a source is read in the same way. -/
theorem breaks_interchangeable
    {ls breaks others : List (List Char)} (hunbroken : ∀ line ∈ ls, Unbroken line)
    (hbreaks : BreaksBetween ls breaks) (hothers : BreaksBetween ls others) :
    ReadAlike (weave ls breaks) (weave ls others) := by
  apply readAlike_of_lines_eq
  by_cases hls : ls = []
  · subst hls
    rfl
  · rw [hbreaks.lines_weave hunbroken hls, hothers.lines_weave hunbroken hls]

theorem breaks_interchangeable_around_empty_line :
    let ls := [[], [' '], List.replicate 9 '@', [], ['.']]
    let breaks := [['\r', '\n'], ['\u2028'], ['\r'], ['\x1d']]
    let others := [['\r'], ['\n'], ['\x0b'], ['\r', '\n']]
    (∀ line ∈ ls, Unbroken line) ∧ BreaksBetween ls breaks ∧ BreaksBetween ls others ∧
      ReadAlike
        (['\r', '\n', ' ', '\u2028'] ++ List.replicate 9 '@' ++ ['\r', '\x1d', '.'])
        (['\r', ' ', '\n'] ++ List.replicate 9 '@' ++ ['\x0b', '\r', '\n', '.']) := by
  intro ls breaks others
  have hunbroken : ∀ line ∈ ls, Unbroken line := by decide
  have hbreaks : BreaksBetween ls breaks := by decide
  have hothers : BreaksBetween ls others := by decide
  exact ⟨hunbroken, hbreaks, hothers, breaks_interchangeable hunbroken hbreaks hothers⟩

end BitmapFont
