import BitmapFont.Proofs.LineStructure
import Mathlib.Data.List.TakeWhile

/-!
# Splitting a text into its lines

The lines that a cursor hands out spell the text when its breaks are put back between
them, and they are the only lines without a break that do.  What might be read in two
ways is a return in front of a line feed, so a break that is a return alone must not be
followed by one.

In this library a text that ends in a break has an empty line behind it.  `splitLines`
follows the other custom, that of Python's `str.splitlines`: a break ends a line, there is
no line behind the last break, and the empty text has no lines at all.  The two differ in
that one line only.
-/

namespace BitmapFont.Text

/-! ## Breaks -/

/-- The eleven breaks of a text. -/
def lineBreaks : List (List Char) :=
  [['\n'], ['\r', '\n'], ['\r'], ['\x0b'], ['\x0c'], ['\x1c'], ['\x1d'], ['\x1e'],
    ['\u0085'], ['\u2028'], ['\u2029']]

instance (brk : List Char) : Decidable (brk ∈ lineBreaks) :=
  inferInstance

/-- A line as it stands between breaks. -/
def Unbroken (line : List Char) : Prop :=
  ∀ c ∈ line, [c] ∉ lineBreaks

instance (line : List Char) : Decidable (Unbroken line) :=
  List.decidableBAll (fun c => [c] ∉ lineBreaks) line

theorem singleton_mem_lineBreaks {c : Char} : [c] ∈ lineBreaks ↔ isLineBreak c = true := by
  simp only [lineBreaks, isLineBreak, List.mem_cons, List.cons.injEq, List.not_mem_nil,
    Bool.or_eq_true, beq_iff_eq]
  grind

theorem Unbroken.isLineBreak_eq_false
    {line : List Char} (hline : Unbroken line) : ∀ c ∈ line, isLineBreak c = false := by
  intro c hc
  rw [Bool.eq_false_iff]
  intro hbreak
  exact hline c hc (singleton_mem_lineBreaks.mpr hbreak)

theorem exists_cons_of_mem_lineBreaks
    {brk : List Char} (hbreak : brk ∈ lineBreaks) :
    ∃ c tail, brk = c :: tail ∧ isLineBreak c = true := by
  have hheads : ∀ brk ∈ lineBreaks, brk.head?.any isLineBreak = true := by decide
  have hhead := hheads brk hbreak
  cases brk with
  | nil => contradiction
  | cons c tail => exact ⟨c, tail, rfl, hhead⟩

/-- Only the break that is a line feed alone begins with one. -/
theorem eq_feed_of_head?_append
    {brk rest : List Char} (hbreak : brk ∈ lineBreaks)
    (hfeed : (brk ++ rest).head? = some '\n') : brk = ['\n'] := by
  have hfeeds : ∀ brk ∈ lineBreaks, brk.head? = some '\n' → brk = ['\n'] := by decide
  refine hfeeds brk hbreak ?_
  obtain ⟨c, tail, rfl, -⟩ := exists_cons_of_mem_lineBreaks hbreak
  exact hfeed

/-- A break takes nothing of what follows, unless a return meets a line feed. -/
theorem dropBreak_lineBreak_append
    {brk rest : List Char} (hbreak : brk ∈ lineBreaks)
    (hwhole : ¬(brk = ['\r'] ∧ rest.head? = some '\n')) :
    dropBreak (brk ++ rest) = rest := by
  have hall : ∀ brk ∈ lineBreaks, dropBreak brk = [] := by decide
  have hnone := hall brk hbreak
  obtain ⟨c, tail, rfl, -⟩ := exists_cons_of_mem_lineBreaks hbreak
  rw [List.cons_append, dropBreak_append hwhole, hnone, List.nil_append]

theorem exists_lineBreak_append
    {c : Char} (rest : List Char) (hc : isLineBreak c = true) :
    ∃ brk ∈ lineBreaks,
      c :: rest = brk ++ dropBreak (c :: rest) ∧
      ¬(brk = ['\r'] ∧ (dropBreak (c :: rest)).head? = some '\n') := by
  by_cases hpair : ∃ tail, c = '\r' ∧ rest = '\n' :: tail
  · obtain ⟨tail, rfl, rfl⟩ := hpair
    exact ⟨['\r', '\n'], by decide, rfl, by simp⟩
  · have hdrop : dropBreak (c :: rest) = rest := by
      rw [dropBreak]
      exact fun tail hreturn hfeed => hpair ⟨tail, hreturn, hfeed⟩
    refine ⟨[c], singleton_mem_lineBreaks.mpr hc, by rw [hdrop]; rfl, ?_⟩
    rintro ⟨hreturn, hfeed⟩
    rw [hdrop] at hfeed
    obtain ⟨tail, rfl⟩ := List.head?_eq_some_iff.mp hfeed
    exact hpair ⟨tail, by simpa using hreturn, rfl⟩

theorem lines_lineBreak_append
    {brk rest : List Char} (hbreak : brk ∈ lineBreaks)
    (hwhole : ¬(brk = ['\r'] ∧ rest.head? = some '\n')) :
    lines (brk ++ rest) = [] :: lines rest := by
  have hdrop := dropBreak_lineBreak_append hbreak hwhole
  obtain ⟨c, tail, rfl, hc⟩ := exists_cons_of_mem_lineBreaks hbreak
  rw [List.cons_append] at hdrop ⊢
  rw [lines_of_break _ hc, hdrop]

/-- A break that stays whole keeps apart the lines before it and those behind it. -/
theorem lines_append_lineBreak_append
    {before brk behind : List Char} (hbreak : brk ∈ lineBreaks)
    (hbefore : ¬(before.getLast? = some '\r' ∧ brk = ['\n']))
    (hwhole : ¬(brk = ['\r'] ∧ behind.head? = some '\n')) :
    lines (before ++ brk ++ behind) = lines before ++ lines behind := by
  have hmeet : ¬(before.getLast? = some '\r' ∧ (brk ++ behind).head? = some '\n') := by
    rintro ⟨hreturn, hfeed⟩
    exact hbefore ⟨hreturn, eq_feed_of_head?_append hbreak hfeed⟩
  rw [List.append_assoc, lines_append hmeet, lines_lineBreak_append hbreak hwhole,
    joinLines_empty_line _ (lines_ne_nil before)]

/-! ## Lines with breaks between them -/

/-- A text is spelled by lines with breaks between them.  No line holds a break, and no
return that is a break by itself stands in front of a line feed. -/
inductive Splits : List Char → List (List Char) → List (List Char) → Prop
  | last {line : List Char} (unbroken : Unbroken line) : Splits line [line] []
  | next {text line brk rest : List Char} {ls breaks : List (List Char)}
      (spelled : text = line ++ brk ++ rest)
      (unbroken : Unbroken line)
      (known : brk ∈ lineBreaks)
      (whole : ¬(brk = ['\r'] ∧ rest.head? = some '\n'))
      (later : Splits rest ls breaks) : Splits text (line :: ls) (brk :: breaks)

theorem lines_unbroken_append
    {line brk rest : List Char} (hline : Unbroken line) (hbreak : brk ∈ lineBreaks)
    (hwhole : ¬(brk = ['\r'] ∧ rest.head? = some '\n')) :
    lines (line ++ brk ++ rest) = line :: lines rest := by
  have hbefore : ¬(line.getLast? = some '\r' ∧ brk = ['\n']) := by
    rintro ⟨hreturn, -⟩
    exact hline '\r' (List.mem_of_getLast? hreturn) (by decide)
  rw [lines_append_lineBreak_append hbreak hbefore hwhole,
    lines_of_unbroken hline.isLineBreak_eq_false, List.singleton_append]

/-- The lines are determined by the text. -/
theorem Splits.lines_eq
    {text : List Char} {ls breaks : List (List Char)} (hsplits : Splits text ls breaks) :
    lines text = ls := by
  induction hsplits with
  | last unbroken => exact lines_of_unbroken unbroken.isLineBreak_eq_false
  | next spelled unbroken known whole later ih =>
      rw [spelled, lines_unbroken_append unbroken known whole, ih]

/-- So are the breaks between them. -/
theorem Splits.breaks_eq
    {text : List Char} {ls breaks others : List (List Char)}
    (hsplits : Splits text ls breaks) (hothers : Splits text ls others) : breaks = others := by
  induction hsplits generalizing others with
  | last =>
      cases hothers with
      | last => rfl
      | next _ _ _ _ later => cases later
  | @next text line brk rest ls breaks spelled _ known whole later ih =>
      cases hothers with
      | last => cases later
      | @next _ _ other behind _ otherBreaks spelled' _ known' whole' later' =>
          have hsame : brk ++ rest = other ++ behind := by
            rw [spelled, List.append_assoc, List.append_assoc] at spelled'
            exact List.append_cancel_left spelled'
          have hrest : rest = behind := by
            rw [← dropBreak_lineBreak_append known whole, hsame,
              dropBreak_lineBreak_append known' whole']
          subst hrest
          obtain rfl : brk = other := List.append_cancel_right hsame
          rw [ih later']

theorem exists_splits (text : List Char) : ∃ breaks, Splits text (lines text) breaks := by
  induction text using breakInduction with
  | nil => exact ⟨[], .last (by simp [Unbroken])⟩
  | atBreak c rest hc ih =>
      obtain ⟨breaks, hlater⟩ := ih
      obtain ⟨brk, hbreak, htext, hwhole⟩ := exists_lineBreak_append rest hc
      refine ⟨brk :: breaks, ?_⟩
      rw [lines_of_break rest hc]
      exact .next htext (by simp [Unbroken]) hbreak hwhole hlater
  | inLine c rest hc ih =>
      obtain ⟨breaks, hlater⟩ := ih
      have hletter : [c] ∉ lineBreaks := by
        rw [singleton_mem_lineBreaks, hc]
        exact Bool.false_ne_true
      refine ⟨breaks, ?_⟩
      rw [lines_of_not_break rest hc]
      generalize lines rest = ls at hlater
      cases hlater with
      | last unbroken => exact .last (List.forall_mem_cons.mpr ⟨hletter, unbroken⟩)
      | next spelled unbroken known whole later =>
          exact .next (by rw [spelled]; rfl) (List.forall_mem_cons.mpr ⟨hletter, unbroken⟩)
            known whole later

/-! ## Breaks that end lines -/

/-- The lines of a text in the sense in which a break ends a line and does not begin
another. -/
def splitLines (text : List Char) : List (List Char) :=
  if text = [] then
    []
  else
    let line := text.takeWhile fun c => [c] ∉ lineBreaks
    let tail := text.drop line.length
    line :: splitLines (tail.drop (if ['\r', '\n'] <+: tail then 2 else 1))
termination_by text.length
decreasing_by
  rename_i htext
  have hpos : 0 < text.length := List.length_pos_iff.mpr htext
  simp only [List.length_drop]
  split <;> omega

theorem drop_eq_dropBreak (text : List Char) :
    text.drop (if ['\r', '\n'] <+: text then 2 else 1) = dropBreak text := by
  fun_cases dropBreak text with
  | case1 rest => simp
  | case2 c rest hsingle =>
      have hpair : ¬['\r', '\n'] <+: c :: rest := by
        rintro ⟨tail, htail⟩
        obtain ⟨hreturn, hfeed⟩ := List.cons.inj htail
        exact hsingle tail hreturn.symm hfeed.symm
      rw [if_neg hpair]
      rfl
  | case3 => simp

theorem splitLines_of_unbroken
    {line : List Char} (hline : Unbroken line) (hbegun : line ≠ []) :
    splitLines line = [line] := by
  have hall : line.takeWhile (fun c => [c] ∉ lineBreaks) = line :=
    List.takeWhile_eq_self_iff.mpr fun c hc => by simpa using hline c hc
  have hend : splitLines [] = [] := by rw [splitLines, if_pos rfl]
  rw [splitLines, if_neg hbegun]
  simp only [hall, List.drop_length, List.drop_nil, hend]

theorem splitLines_unbroken_append
    {line brk rest : List Char} (hline : Unbroken line) (hbreak : brk ∈ lineBreaks)
    (hwhole : ¬(brk = ['\r'] ∧ rest.head? = some '\n')) :
    splitLines (line ++ brk ++ rest) = line :: splitLines rest := by
  have hdrop := dropBreak_lineBreak_append hbreak hwhole
  obtain ⟨c, tail, rfl, hc⟩ := exists_cons_of_mem_lineBreaks hbreak
  have hknown : [c] ∈ lineBreaks := singleton_mem_lineBreaks.mpr hc
  have htake :
      (line ++ (c :: tail ++ rest)).takeWhile (fun c => [c] ∉ lineBreaks) = line := by
    rw [List.takeWhile_append_of_pos fun d hd => by simpa using hline d hd,
      List.cons_append, List.takeWhile_cons_of_neg (by simpa using hknown), List.append_nil]
  rw [List.append_assoc, splitLines, if_neg (by simp)]
  simp only [htake, List.drop_left, drop_eq_dropBreak, hdrop]

theorem ends_iff {text : List Char} :
    (text = [] ∨ ∃ brk ∈ lineBreaks, brk <:+ text) ↔
      ∀ c, text.getLast? = some c → [c] ∈ lineBreaks := by
  constructor
  · rintro (rfl | ⟨brk, hbreak, front, rfl⟩) c hc
    · contradiction
    · have hlasts : ∀ brk ∈ lineBreaks, brk.getLast?.any (fun c => [c] ∈ lineBreaks) = true := by
        decide
      have hlast := hlasts brk hbreak
      rw [List.getLast?_append] at hc
      cases hend : brk.getLast? with
      | none => simp [hend] at hlast
      | some last =>
          obtain rfl : last = c := by simpa [hend] using hc
          simpa [hend] using hlast
  · intro hlast
    rcases List.eq_nil_or_concat text with rfl | ⟨front, c, rfl⟩
    · exact .inl rfl
    · exact .inr ⟨[c], hlast c (by simp), front, by simp⟩

/-- Behind a break only the rest of the text decides whether it ends in one. -/
theorem ends_append_iff
    {front brk rest : List Char} (hbreak : brk ∈ lineBreaks) :
    (front ++ brk ++ rest = [] ∨ ∃ other ∈ lineBreaks, other <:+ front ++ brk ++ rest) ↔
      (rest = [] ∨ ∃ other ∈ lineBreaks, other <:+ rest) := by
  rcases List.eq_nil_or_concat rest with rfl | ⟨before, c, rfl⟩
  · have hsuffix : ∃ other ∈ lineBreaks, other <:+ front ++ brk ++ [] :=
      ⟨brk, hbreak, by simp⟩
    simp only [hsuffix, or_true, true_or]
  · rw [ends_iff, ends_iff]
    simp

theorem not_ends_of_unbroken
    {line : List Char} (hline : Unbroken line) (hbegun : line ≠ []) :
    ¬(line = [] ∨ ∃ brk ∈ lineBreaks, brk <:+ line) := by
  rw [ends_iff]
  intro hlast
  have hc := List.getLast?_eq_some_getLast hbegun
  exact hline _ (List.mem_of_getLast? hc) (hlast _ hc)

theorem lines_eq_splitLines (text : List Char) :
    lines text =
      splitLines text ++
        if text = [] ∨ ∃ brk ∈ lineBreaks, brk <:+ text then [[]] else [] := by
  obtain ⟨breaks, hsplits⟩ := exists_splits text
  generalize lines text = ls at hsplits ⊢
  induction hsplits with
  | @last line unbroken =>
      by_cases hbegun : line = []
      · subst hbegun
        rw [if_pos (.inl rfl), splitLines, if_pos rfl, List.nil_append]
      · rw [if_neg (not_ends_of_unbroken unbroken hbegun),
          splitLines_of_unbroken unbroken hbegun, List.append_nil]
  | next spelled unbroken known whole later ih =>
      rw [spelled, splitLines_unbroken_append unbroken known whole, List.cons_append, ih]
      simp only [ends_append_iff known]

example : splitLines ['a', '\r', '\n', '\r'] = [['a'], []] := by cbv

/-! ## What a cursor hands out -/

namespace LineCursor

/-- The lines that a cursor still has to hand out. -/
def drain (cursor : LineCursor) : List (List Char) :=
  match _hnext : cursor.next with
  | none => []
  | some (line, after) => line :: drain after
termination_by cursor.size
decreasing_by exact size_next _hnext

theorem drain_eq_toList (cursor : LineCursor) : cursor.drain = cursor.toList := by
  fun_induction drain cursor with
  | case1 cursor hnext => rw [toList_of_next_eq_none hnext]
  | case2 cursor line after hnext ih => rw [ih, toList_of_next_eq_some hnext]

end LineCursor

/-- The lines handed out spell the text with breaks between them, in one way only, and
there is one more of them than `splitLines` has exactly when the text is empty or ends
in a break. -/
theorem lines_spell_text_uniquely (text : List Char) :
    (∃ breaks, Splits text (LineCursor.ofText text).drain breaks ∧
      ∀ others otherBreaks, Splits text others otherBreaks →
        others = (LineCursor.ofText text).drain ∧ otherBreaks = breaks) ∧
      (LineCursor.ofText text).drain =
        splitLines text ++
          if text = [] ∨ ∃ brk ∈ lineBreaks, brk <:+ text then [[]] else [] := by
  rw [LineCursor.drain_eq_toList, LineCursor.toList_ofText]
  obtain ⟨breaks, hsplits⟩ := exists_splits text
  refine ⟨⟨breaks, hsplits, fun others otherBreaks hothers => ?_⟩, lines_eq_splitLines text⟩
  obtain rfl := hothers.lines_eq
  exact ⟨rfl, hothers.breaks_eq hsplits⟩

end BitmapFont.Text
