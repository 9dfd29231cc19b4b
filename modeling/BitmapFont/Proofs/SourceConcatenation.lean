import BitmapFont.Proofs.DrawnRows
import BitmapFont.Proofs.LineSplitting

/-!
# Sources put together

A source can be put together in two ways of which the rows are those of its parts.  Leading
space may be put in front of it, and a second source may be put behind it after a line
feed.  The only thing that changes about a row is the number of its line, and that is seen
only where the row is refused.

How far the lines move is a matter of counting breaks.  A return at the end of the first
part and a line feed at the start of the second become one break, which is then one less
than the parts have on their own.
-/

namespace BitmapFont

open Text

namespace Text

/-! ## Breaks of a concatenation -/

/-- The breaks that a text has in front of another.  A return at its end does not count
where a line feed follows, for then the break belongs to the second text. -/
def breaksBefore (before behind : List Char) : Nat :=
  breakCount before -
    if before.getLast? = some '\r' ∧ behind.head? = some '\n' then 1 else 0

theorem breaksBefore_congr
    {behind other : List Char} (before : List Char)
    (hfeed : behind.head? = some '\n' ↔ other.head? = some '\n') :
    breaksBefore before behind = breaksBefore before other := by
  unfold breaksBefore
  simp only [hfeed]

theorem length_joinLines
    {before : List (List Char)} (behind : List (List Char)) (hbefore : before ≠ []) :
    (joinLines before behind).length + 1 = before.length + behind.length := by
  obtain ⟨front, last, rfl⟩ := (List.eq_nil_or_concat' before).resolve_left hbefore
  rw [joinLines_concat, List.length_append, List.length_append, List.length_modifyHead,
    List.length_singleton]
  omega

theorem lines_concat_return (front : List Char) :
    lines (front ++ ['\r']) = lines front ++ [[]] := by
  have hjoined : lines (front ++ ['\r'] ++ []) = lines front ++ lines [] :=
    lines_append_lineBreak_append (by decide) (by simp) (by simp)
  rwa [List.append_nil, lines_nil] at hjoined

theorem lines_append_pair_append (front rest : List Char) :
    lines (front ++ ['\r'] ++ '\n' :: rest) = lines front ++ lines rest := by
  have hjoined : lines (front ++ ['\r', '\n'] ++ rest) = lines front ++ lines rest :=
    lines_append_lineBreak_append (by decide) (by simp) (by simp)
  simpa using hjoined

theorem breakCount_append (before behind : List Char) :
    breakCount (before ++ behind) = breaksBefore before behind + breakCount behind := by
  have htogether := length_lines (before ++ behind)
  have hfirst := length_lines before
  have hsecond := length_lines behind
  unfold breaksBefore
  by_cases hmeet : before.getLast? = some '\r' ∧ behind.head? = some '\n'
  · rw [if_pos hmeet]
    obtain ⟨hreturn, hfeed⟩ := hmeet
    obtain ⟨front, rfl⟩ := List.getLast?_eq_some_iff.mp hreturn
    obtain ⟨rest, rfl⟩ := List.head?_eq_some_iff.mp hfeed
    rw [lines_append_pair_append, List.length_append] at htogether
    have hfront := length_lines front
    rw [lines_concat_return, List.length_append, List.length_singleton] at hfirst
    rw [lines_of_break rest (by decide), dropBreak_eq_of_ne_return (by decide),
      List.length_cons] at hsecond
    omega
  · rw [if_neg hmeet]
    have hlength := length_joinLines (lines behind) (lines_ne_nil before)
    rw [lines_append hmeet] at htogether
    omega

/-! ## A line feed between two texts -/

/-- The lines of a text in front of a line feed that is put behind it.  A return at its end
begins no line then. -/
def linesBeforeFeed (text : List Char) : List (List Char) :=
  if text.getLast? = some '\r' then (lines text).dropLast else lines text

theorem length_linesBeforeFeed (text : List Char) :
    (linesBeforeFeed text).length =
      breakCount text + 1 - if text.getLast? = some '\r' then 1 else 0 := by
  unfold linesBeforeFeed
  split
  · rw [List.length_dropLast, length_lines]
  · rw [length_lines, Nat.sub_zero]

theorem lines_append_feed (before behind : List Char) :
    lines (before ++ '\n' :: behind) = linesBeforeFeed before ++ lines behind := by
  unfold linesBeforeFeed
  split
  · rename_i hreturn
    obtain ⟨front, rfl⟩ := List.getLast?_eq_some_iff.mp hreturn
    rw [lines_append_pair_append, lines_concat_return, List.dropLast_concat]
  · rename_i hreturn
    have hjoined : lines (before ++ ['\n'] ++ behind) = lines before ++ lines behind :=
      lines_append_lineBreak_append (by decide) (fun hmeet => hreturn hmeet.1) (by simp)
    simpa using hjoined

theorem length_linesBeforeFeed_append (before content behind : List Char) :
    (linesBeforeFeed (before ++ content)).length =
      breaksBefore before (content ++ '\n' :: behind) + (linesBeforeFeed content).length := by
  have htogether := congrArg List.length (lines_append_feed (before ++ content) behind)
  have hcontent := congrArg List.length (lines_append_feed content behind)
  have hcount := breakCount_append before (content ++ '\n' :: behind)
  rw [List.append_assoc, length_lines, List.length_append] at htogether
  rw [length_lines, List.length_append] at hcontent
  omega

theorem length_linesBeforeFeed_eq_breaksBefore (before behind : List Char) :
    (linesBeforeFeed before).length = breaksBefore (before ++ ['\n']) behind := by
  have htogether := congrArg List.length (lines_append_feed before behind)
  have hcount := breakCount_append (before ++ ['\n']) behind
  have hbehind := length_lines behind
  rw [length_lines, List.length_append] at htogether
  rw [List.append_assoc, List.singleton_append] at hcount
  omega

end Text

theorem tokensFrom_linesBeforeFeed (number : Nat) (text : List Char) :
    tokensFrom number (linesBeforeFeed text) = tokensFrom number (lines text) := by
  unfold linesBeforeFeed
  split
  · rename_i hreturn
    obtain ⟨front, rfl⟩ := List.getLast?_eq_some_iff.mp hreturn
    rw [lines_concat_return, List.dropLast_concat, tokensFrom_append, tokensFrom_empty_line,
      List.append_nil]
  · rfl

/-! ## Rows further down -/

def WidthError.movedDown (error : WidthError) (distance : Nat) : WidthError :=
  { error with line := error.line + distance }

def RowToken.movedDown (token : RowToken) (distance : Nat) : RowToken :=
  { token with line := token.line + distance }

theorem RowToken.ofLine?_add (number distance : Nat) (line : List Char) :
    ofLine? (number + distance) line = (ofLine? number line).map (·.movedDown distance) := by
  unfold ofLine?
  cases line.takeWhile isMarker <;> rfl

theorem RowToken.pack_movedDown (token : RowToken) (distance : Nat) (policy : WidthPolicy) :
    (token.movedDown distance).pack policy =
      (token.pack policy).mapError (·.movedDown distance) := by
  by_cases hallows : policy.allows token.width = true
  · rw [pack_of_allows hallows]
    exact pack_of_allows hallows
  · rw [pack_of_not_allows hallows]
    exact pack_of_not_allows hallows

theorem tokensFrom_add (number distance : Nat) (lines : List (List Char)) :
    tokensFrom (number + distance) lines =
      (tokensFrom number lines).map (·.movedDown distance) := by
  induction lines generalizing number with
  | nil => rfl
  | cons line lines ih =>
      have hlater := ih (number + 1)
      rw [Nat.add_right_comm] at hlater
      have hfirst := RowToken.ofLine?_add number distance line
      cases hline : RowToken.ofLine? number line with
      | none =>
          rw [hline, Option.map_none] at hfirst
          rw [tokensFrom_cons_of_none _ hfirst, tokensFrom_cons_of_none _ hline, hlater]
      | some token =>
          rw [hline, Option.map_some] at hfirst
          rw [tokensFrom_cons_of_some _ hfirst, tokensFrom_cons_of_some _ hline, hlater,
            List.map_cons]

/-- A row whose line has moved down.  One that is packed has no number to show for it. -/
def movedItem (distance : Nat) : RowItem → RowItem :=
  Except.mapError (·.movedDown distance)

theorem pack_tokensFrom_add
    (number distance : Nat) (lines : List (List Char)) (policy : WidthPolicy) :
    (tokensFrom (number + distance) lines).map (·.pack policy) =
      ((tokensFrom number lines).map (·.pack policy)).map (movedItem distance) := by
  rw [tokensFrom_add, List.map_map, List.map_map]
  exact List.map_congr_left fun token _ => token.pack_movedDown distance policy

theorem mapM_id_movedItem (distance : Nat) (items : List RowItem) :
    (items.map (movedItem distance)).mapM id =
      (items.mapM id).mapError (·.movedDown distance) := by
  induction items with
  | nil => rfl
  | cons item items ih =>
      rw [List.map_cons, List.mapM_cons, List.mapM_cons]
      cases item with
      | error error => rfl
      | ok byte =>
          have hitem : movedItem distance (.ok byte) = .ok byte := rfl
          rw [hitem, ih]
          cases items.mapM id <;> rfl

/-! ## Leading space in front -/

theorem head?_takeWhile_eq_feed_iff (text : List Char) :
    (text.takeWhile isLeadingSpace).head? = some '\n' ↔ text.head? = some '\n' := by
  cases text with
  | nil => rfl
  | cons c rest =>
      by_cases hc : isLeadingSpace c = true
      · rw [List.takeWhile_cons_of_pos hc, List.head?_cons, List.head?_cons]
      · have hfeed : c ≠ '\n' := by
          rintro rfl
          exact hc (by decide)
        simp [List.takeWhile_cons_of_neg hc, hfeed]

theorem items_space_append
    {space : List Char} (hspace : ∀ c ∈ space, isLeadingSpace c = true) (text : List Char)
    (policy : WidthPolicy) :
    Cursor.items (RowCursor.ofText (space ++ text) policy) =
      (Cursor.items (RowCursor.ofText text policy)).map
        (movedItem (breaksBefore space text)) := by
  have hnumber :
      (lines (space ++ text.takeWhile isLeadingSpace)).length =
        (lines (text.takeWhile isLeadingSpace)).length + breaksBefore space text := by
    rw [length_lines, length_lines, breakCount_append,
      breaksBefore_congr space (head?_takeWhile_eq_feed_iff text)]
    omega
  rw [RowCursor.items_ofText, RowCursor.items_ofText, List.takeWhile_append_of_pos hspace,
    List.dropWhile_append_of_pos hspace, hnumber, pack_tokensFrom_add]

theorem items_of_space
    {space : List Char} (hspace : ∀ c ∈ space, isLeadingSpace c = true) (policy : WidthPolicy) :
    Cursor.items (RowCursor.ofText space policy) = [] := by
  rw [RowCursor.items_eq_sourceTokens, sourceTokens, inkedLines_of_space hspace]
  rfl

/-! ## A source behind another -/

theorem items_of_inked
    {text : List Char} (htext : ∀ c, text.head? = some c → isLeadingSpace c = false)
    (policy : WidthPolicy) :
    Cursor.items (RowCursor.ofText text policy) =
      (tokensFrom 1 (lines text)).map (·.pack policy) := by
  rw [RowCursor.items_eq_sourceTokens, sourceTokens_of_inked htext]

theorem items_append_feed_of_space
    {space : List Char} (hspace : ∀ c ∈ space, isLeadingSpace c = true) (behind : List Char)
    (policy : WidthPolicy) :
    Cursor.items (RowCursor.ofText (space ++ '\n' :: behind) policy) =
      (Cursor.items (RowCursor.ofText behind policy)).map
        (movedItem (linesBeforeFeed space).length) := by
  have hclosed : ∀ c ∈ space ++ ['\n'], isLeadingSpace c = true :=
    List.forall_mem_append.mpr ⟨hspace, List.forall_mem_singleton.mpr (by decide)⟩
  have hitems := items_space_append hclosed behind policy
  rwa [List.append_assoc, List.singleton_append,
    ← length_linesBeforeFeed_eq_breaksBefore] at hitems

/-- Where the first source is not blank, the leading space of both together is its own. -/
theorem items_append_feed_of_inked
    {space content behind : List Char} (hspace : ∀ c ∈ space, isLeadingSpace c = true)
    (hcontent : ∃ c rest, content = c :: rest ∧ isLeadingSpace c = false)
    (hbehind : ∀ c, behind.head? = some c → isLeadingSpace c = false) (policy : WidthPolicy) :
    Cursor.items (RowCursor.ofText (space ++ content ++ '\n' :: behind) policy) =
      Cursor.items (RowCursor.ofText (space ++ content) policy) ++
        (Cursor.items (RowCursor.ofText behind policy)).map
          (movedItem (linesBeforeFeed (space ++ content)).length) := by
  obtain ⟨c, rest, rfl, hc⟩ := hcontent
  have hinked : ∀ tail d, (c :: tail).head? = some d → isLeadingSpace d = false := by
    rintro tail d ⟨⟩
    exact hc
  have hbreaks :
      breaksBefore space (c :: (rest ++ '\n' :: behind)) = breaksBefore space (c :: rest) :=
    breaksBefore_congr space Iff.rfl
  have hdistance :
      1 + (linesBeforeFeed (c :: rest)).length + breaksBefore space (c :: rest) =
        1 + (linesBeforeFeed (space ++ c :: rest)).length := by
    rw [length_linesBeforeFeed_append space (c :: rest) behind, List.cons_append, hbreaks]
    omega
  have hfirst :
      Cursor.items (RowCursor.ofText (space ++ c :: rest) policy) =
        ((tokensFrom 1 (lines (c :: rest))).map (·.pack policy)).map
          (movedItem (breaksBefore space (c :: rest))) := by
    rw [items_space_append hspace, items_of_inked (hinked rest)]
  have hsecond :
      (Cursor.items (RowCursor.ofText behind policy)).map
          (movedItem (linesBeforeFeed (space ++ c :: rest)).length) =
        ((tokensFrom (1 + (linesBeforeFeed (c :: rest)).length) (lines behind)).map
          (·.pack policy)).map (movedItem (breaksBefore space (c :: rest))) := by
    rw [items_of_inked hbehind, ← pack_tokensFrom_add, ← pack_tokensFrom_add, hdistance]
  have hlines :
      tokensFrom 1 (lines (c :: (rest ++ '\n' :: behind))) =
        tokensFrom 1 (lines (c :: rest)) ++
          tokensFrom (1 + (linesBeforeFeed (c :: rest)).length) (lines behind) := by
    rw [← List.cons_append, lines_append_feed, tokensFrom_append, tokensFrom_linesBeforeFeed]
  rw [hfirst, hsecond, List.append_assoc, List.cons_append, items_space_append hspace,
    items_of_inked (hinked _), hbreaks, hlines, List.map_append, List.map_append]

theorem items_append_feed
    (before : List Char) {behind : List Char}
    (hbehind : ∀ c, behind.head? = some c → isLeadingSpace c = false) (policy : WidthPolicy) :
    Cursor.items (RowCursor.ofText (before ++ '\n' :: behind) policy) =
      Cursor.items (RowCursor.ofText before policy) ++
        (Cursor.items (RowCursor.ofText behind policy)).map
          (movedItem (linesBeforeFeed before).length) := by
  have hspace : ∀ c ∈ before.takeWhile isLeadingSpace, isLeadingSpace c = true :=
    fun c hc => List.mem_takeWhile_imp hc
  have hsplit : before.takeWhile isLeadingSpace ++ before.dropWhile isLeadingSpace = before :=
    List.takeWhile_append_dropWhile
  cases hcontent : before.dropWhile isLeadingSpace with
  | nil =>
      rw [hcontent, List.append_nil] at hsplit
      rw [hsplit] at hspace
      rw [items_of_space hspace, List.nil_append, items_append_feed_of_space hspace]
  | cons c rest =>
      have hc : isLeadingSpace c = false :=
        isLeadingSpace_of_head?_dropWhile (by rw [hcontent, List.head?_cons])
      rw [← hsplit, hcontent]
      exact items_append_feed_of_inked hspace ⟨c, rest, rfl, hc⟩ hbehind policy

/-! ## Encodings -/

/-- A source behind another, after a line feed.  Its lines move down by those of the first,
of which there is one less when the first ends in a return. -/
theorem source_behind_source
    (before : List Char) {behind : List Char}
    (hbehind : ∀ c, behind.head? = some c → isLeadingSpace c = false) (policy : WidthPolicy) :
    let distance := breakCount before + 1 - if before.getLast? = some '\r' then 1 else 0
    Cursor.items (RowCursor.ofText (before ++ '\n' :: behind) policy) =
        Cursor.items (RowCursor.ofText before policy) ++
          (Cursor.items (RowCursor.ofText behind policy)).map
            (Except.mapError fun error => { error with line := error.line + distance }) ∧
      (encodeWith policy (before ++ '\n' :: behind)).value =
        match (encodeWith policy before).value, (encodeWith policy behind).value with
        | .ok front, .ok back => .ok (front ++ back)
        | .error error, _ => .error error
        | .ok _, .error error => .error { error with line := error.line + distance } := by
  intro distance
  have hitems := items_append_feed before hbehind policy
  rw [length_linesBeforeFeed] at hitems
  refine ⟨hitems, ?_⟩
  rw [encodeWith_value, encodeWith_value, encodeWith_value, hitems, List.mapM_append,
    mapM_id_movedItem]
  cases (Cursor.items (RowCursor.ofText before policy)).mapM id with
  | error error => rfl
  | ok front => cases (Cursor.items (RowCursor.ofText behind policy)).mapM id <;> rfl

theorem source_behind_source_after_return :
    let before := ['\u2028', ' ', '@', '\r']
    let behind := List.replicate 9 '.'
    (∀ c, behind.head? = some c → isLeadingSpace c = false) ∧
      Cursor.items (RowCursor.ofText (before ++ '\n' :: behind) .lenient) =
        [.ok 1, .error ⟨3, 9, .lenient⟩] ∧
      (encodeWith .lenient (before ++ '\n' :: behind)).value = .error ⟨3, 9, .lenient⟩ := by
  intro before behind
  have hbehind : ∀ c, behind.head? = some c → isLeadingSpace c = false := by
    rintro c ⟨⟩
    decide
  have hfirst : Cursor.items (RowCursor.ofText before .lenient) = [.ok 1] := by
    rw [RowCursor.items_eq_sourceTokens]
    rfl
  have hsecond :
      Cursor.items (RowCursor.ofText behind .lenient) = [.error ⟨1, 9, .lenient⟩] := by
    rw [RowCursor.items_eq_sourceTokens]
    rfl
  obtain ⟨hitems, hvalue⟩ := source_behind_source before hbehind .lenient
  rw [hfirst, hsecond] at hitems
  rw [encodeWith_value .lenient before, encodeWith_value .lenient behind, hfirst, hsecond]
    at hvalue
  exact ⟨hbehind, hitems, hvalue⟩

/-- Leading space in front of a source moves its lines down by the breaks of the space, of
which there is one less when its last break is completed by the source. -/
theorem space_before_source
    {space : List Char} (hspace : ∀ c ∈ space, isLeadingSpace c = true) (text : List Char)
    (policy : WidthPolicy) :
    let distance :=
      breakCount space -
        if space.getLast? = some '\r' ∧ text.head? = some '\n' then 1 else 0
    Cursor.items (RowCursor.ofText (space ++ text) policy) =
        (Cursor.items (RowCursor.ofText text policy)).map
          (Except.mapError fun error => { error with line := error.line + distance }) ∧
      (encodeWith policy (space ++ text)).value =
        match (encodeWith policy text).value with
        | .ok blob => .ok blob
        | .error error => .error { error with line := error.line + distance } := by
  intro distance
  have hitems := items_space_append hspace text policy
  refine ⟨hitems, ?_⟩
  rw [encodeWith_value, encodeWith_value, hitems, mapM_id_movedItem]
  cases (Cursor.items (RowCursor.ofText text policy)).mapM id <;> rfl

theorem space_before_source_at_line_feed :
    let space := ['\x1f', '\x1d', '\u3000', '\r']
    let text := ['\n', '\t'] ++ List.replicate 9 '@'
    (∀ c ∈ space, isLeadingSpace c = true) ∧
      Cursor.items (RowCursor.ofText text .lenient) = [.error ⟨2, 9, .lenient⟩] ∧
      Cursor.items (RowCursor.ofText (space ++ text) .lenient) = [.error ⟨3, 9, .lenient⟩] ∧
      (encodeWith .lenient (space ++ text)).value = .error ⟨3, 9, .lenient⟩ := by
  intro space text
  have hspace : ∀ c ∈ space, isLeadingSpace c = true := List.all_eq_true.mp (by decide)
  have htext : Cursor.items (RowCursor.ofText text .lenient) = [.error ⟨2, 9, .lenient⟩] := by
    rw [RowCursor.items_eq_sourceTokens]
    rfl
  obtain ⟨hitems, hvalue⟩ := space_before_source hspace text .lenient
  rw [htext] at hitems
  rw [encodeWith_value .lenient text, htext] at hvalue
  exact ⟨hspace, htext, hitems, hvalue⟩

end BitmapFont
