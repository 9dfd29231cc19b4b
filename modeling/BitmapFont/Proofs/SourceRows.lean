import BitmapFont.Encode
import BitmapFont.Proofs.CursorListing
import BitmapFont.Proofs.LineStructure
import BitmapFont.Proofs.RowPacking
import Mathlib.Data.List.Basic
import Mathlib.Data.List.TakeWhile

/-!
# The rows of a whole source

A row cursor works on a source whose leading white space is already gone and
makes up for it with a number to start from.  Here the same rows are read off
the lines of the whole source, each with its true number: blank lines at the
start are passed over, the first line that is not blank loses the space it
begins with, and from there on every line stands for itself.

The joint between the leading space and the rest lies in no break, because
every break is leading space.  So the last line of the space runs on into the
first line of the rest, and the numbers agree.
-/

namespace BitmapFont

open Text

/-! ## Rows of numbered lines -/

def tokensFrom (number : Nat) (lines : List (List Char)) : List RowToken :=
  (lines.zipIdx number).filterMap fun (line, number) => RowToken.ofLine? number line

@[simp] theorem tokensFrom_nil (number : Nat) : tokensFrom number [] = [] := rfl

theorem tokensFrom_cons_of_none
    {number : Nat} {line : List Char} (lines : List (List Char))
    (hline : RowToken.ofLine? number line = none) :
    tokensFrom number (line :: lines) = tokensFrom (number + 1) lines := by
  simp [tokensFrom, hline]

theorem tokensFrom_cons_of_some
    {number : Nat} {line : List Char} {token : RowToken} (lines : List (List Char))
    (hline : RowToken.ofLine? number line = some token) :
    tokensFrom number (line :: lines) = token :: tokensFrom (number + 1) lines := by
  simp [tokensFrom, hline]

@[simp] theorem tokensFrom_empty_line (number : Nat) : tokensFrom number [[]] = [] := rfl

namespace RowCursor

def toList (cursor : RowCursor) : List RowItem :=
  (tokensFrom (cursor.lineNumber + 1) cursor.lines.toList).map (·.pack cursor.policy)

theorem nextFrom_toList (gate : Gate) (cursor : RowCursor) (log : Array Event) :
    (cursor.nextFrom gate log).item = cursor.toList.head? ∧
      (cursor.nextFrom gate log).rest.toList = cursor.toList.tail := by
  fun_induction nextFrom gate cursor log with
  | case1 cursor log hline =>
      simp [toList, LineCursor.toList_of_next_eq_none hline]
  | case2 cursor log line lines hline number after hrow ih =>
      have hskip : cursor.toList = after.toList := by
        rw [toList, LineCursor.toList_of_next_eq_some hline,
          tokensFrom_cons_of_none _ hrow]
        rfl
      rwa [hskip]
  | case3 cursor log line lines hline number after token hrow byte hpack =>
      have hfound : cursor.toList = .ok byte :: after.toList := by
        rw [toList, LineCursor.toList_of_next_eq_some hline,
          tokensFrom_cons_of_some _ hrow, List.map_cons, hpack]
        rfl
      simp [hfound]
  | case4 cursor log line lines hline number after token hrow error hpack =>
      have hfound : cursor.toList = .error error :: after.toList := by
        rw [toList, LineCursor.toList_of_next_eq_some hline,
          tokensFrom_cons_of_some _ hrow, List.map_cons, hpack]
        rfl
      simp [hfound]

theorem listing : Cursor.Listing toList where
  item cursor := (cursor.nextFrom_toList .wide #[]).1
  rest cursor := (cursor.nextFrom_toList .wide #[]).2

/-- The rows come from the lines behind the leading space, the first of which
has the number of the line that the space ends in. -/
theorem items_ofText (text : List Char) (policy : WidthPolicy) :
    Cursor.items (ofText text policy) =
      (tokensFrom (Text.lines (text.takeWhile isLeadingSpace)).length
        (Text.lines (text.dropWhile isLeadingSpace))).map (·.pack policy) := by
  have hpos := List.length_pos_iff.mpr (lines_ne_nil (text.takeWhile isLeadingSpace))
  rw [listing.items_eq, toList]
  simp only [ofText, LineCursor.toList_ofText, LineCursor.count_ofText]
  rw [Nat.sub_add_cancel hpos]

end RowCursor

/-! ## Leading space -/

theorem not_isLineBreak_of_not_isLeadingSpace
    {c : Char} (hc : isLeadingSpace c = false) : isLineBreak c = false := by
  rw [Bool.eq_false_iff] at hc ⊢
  intro hbreak
  apply hc
  simp only [isLineBreak, Bool.or_eq_true, beq_iff_eq] at hbreak
  rcases hbreak with (((((((((rfl | rfl) | rfl) | rfl) | rfl) | rfl) | rfl) | rfl) | rfl) | rfl)
  all_goals decide

theorem isLeadingSpace_of_head?_dropWhile
    {text : List Char} {c : Char} (hc : (text.dropWhile isLeadingSpace).head? = some c) :
    isLeadingSpace c = false := by
  have hhead := List.head?_dropWhile_not isLeadingSpace text
  simpa [hc] using hhead

/-- The number of breaks in the space that a source begins with. -/
def blankBreaks (text : List Char) : Nat :=
  breakCount (text.takeWhile isLeadingSpace)

def isBlankLine (line : List Char) : Bool :=
  line.all isLeadingSpace

def numberedLines (text : List Char) : List (List Char × Nat) :=
  (lines text).zipIdx 1

/-- The numbered lines that count: those from the first line on that is not
blank, which loses the space it begins with. -/
def inkedLines (text : List Char) : List (List Char × Nat) :=
  match (numberedLines text).dropWhile fun (line, _) => isBlankLine line with
  | [] => []
  | (line, number) :: rest => (line.dropWhile isLeadingSpace, number) :: rest

def sourceTokens (text : List Char) : List RowToken :=
  (inkedLines text).filterMap fun (line, number) => RowToken.ofLine? number line

theorem isBlankLine_of_mem_lines
    {text line : List Char} (htext : ∀ c ∈ text, isLeadingSpace c = true)
    (hline : line ∈ lines text) : isBlankLine line = true :=
  List.all_eq_true.mpr fun c hc => htext c (mem_of_mem_lines hline hc)

theorem modifyHead_strip_lines
    {content : List Char} (hcontent : ∀ c, content.head? = some c → isLeadingSpace c = false) :
    (lines content).modifyHead (·.dropWhile isLeadingSpace) = lines content := by
  cases content with
  | nil => rfl
  | cons c rest =>
      have hc : isLeadingSpace c = false := hcontent c rfl
      obtain ⟨first, more, hrest⟩ := List.exists_cons_of_ne_nil (lines_ne_nil rest)
      rw [lines_of_not_break rest (not_isLineBreak_of_not_isLeadingSpace hc), hrest,
        List.modifyHead_cons, List.modifyHead_cons, List.dropWhile_cons_of_neg (by simp [hc])]

/-- The lines in front of the one in which the leading space ends are blank.  That one
begins with what is left of the space. -/
theorem exists_blank_lines (text : List Char) :
    ∃ front last,
      front.length = blankBreaks text ∧
      (∀ line ∈ front, isBlankLine line = true) ∧
      (∀ c ∈ last, isLeadingSpace c = true) ∧
      lines text = front ++ (lines (text.dropWhile isLeadingSpace)).modifyHead (last ++ ·) := by
  have hspace : ∀ c ∈ text.takeWhile isLeadingSpace, isLeadingSpace c = true :=
    fun c hc => List.mem_takeWhile_imp hc
  have hmeet : ¬((text.takeWhile isLeadingSpace).getLast? = some '\r' ∧
      (text.dropWhile isLeadingSpace).head? = some '\n') := by
    rintro ⟨-, hfeed⟩
    exact absurd (isLeadingSpace_of_head?_dropWhile hfeed) (by decide)
  obtain ⟨front, last, hfront⟩ :=
    (List.eq_nil_or_concat' (lines (text.takeWhile isLeadingSpace))).resolve_left
      (lines_ne_nil _)
  refine ⟨front, last, ?_, ?_, ?_, ?_⟩
  · have hcount := length_lines (text.takeWhile isLeadingSpace)
    rw [hfront, List.length_append, List.length_singleton] at hcount
    exact Nat.succ.inj hcount
  · exact fun line hline => isBlankLine_of_mem_lines hspace (by simp [hfront, hline])
  · exact fun c hc => hspace c (mem_of_mem_lines (by simp [hfront]) hc)
  · conv_lhs => rw [← List.takeWhile_append_dropWhile (p := isLeadingSpace) (l := text)]
    rw [lines_append hmeet, hfront, joinLines_concat]

/-- The lines from the one in which the leading space ends are the lines of what is
behind that space. -/
theorem stripped_lines (text : List Char) :
    ((lines text).drop (blankBreaks text)).modifyHead (·.dropWhile isLeadingSpace) =
      lines (text.dropWhile isLeadingSpace) := by
  obtain ⟨front, last, hlength, -, hlast, hlines⟩ := exists_blank_lines text
  have hstrip :
      (fun line : List Char => (last ++ line).dropWhile isLeadingSpace) =
        (·.dropWhile isLeadingSpace) := by
    funext line
    rw [List.dropWhile_append_of_pos hlast]
  rw [hlines, ← hlength, List.drop_left, List.modifyHead_modifyHead]
  exact (congrArg (List.modifyHead · _) hstrip).trans
    (modifyHead_strip_lines fun c hc => isLeadingSpace_of_head?_dropWhile hc)

theorem inkedLines_of_space
    {space : List Char} (hspace : ∀ c ∈ space, isLeadingSpace c = true) :
    inkedLines space = [] := by
  have hblank :
      ((numberedLines space).dropWhile fun (line, _) => isBlankLine line) = [] := by
    rw [List.dropWhile_eq_nil_iff]
    rintro ⟨line, number⟩ hline
    exact isBlankLine_of_mem_lines hspace (List.fst_mem_of_mem_zipIdx hline)
  rw [inkedLines, hblank]

/-- Where a source is more than space, the lines that count are those of what is behind its
leading space, and the first of them has the number of the line that the space ends in. -/
theorem inkedLines_of_content
    {text rest : List Char} {c : Char} (hcontent : text.dropWhile isLeadingSpace = c :: rest) :
    inkedLines text = (lines (c :: rest)).zipIdx (blankBreaks text + 1) := by
  have hc : isLeadingSpace c = false :=
    isLeadingSpace_of_head?_dropWhile (by rw [hcontent, List.head?_cons])
  obtain ⟨front, last, hlength, hblank, hlast, hlines⟩ := exists_blank_lines text
  obtain ⟨first, more, hrest⟩ := List.exists_cons_of_ne_nil (lines_ne_nil rest)
  have hfirst : lines (c :: rest) = (c :: first) :: more := by
    rw [lines_of_not_break rest (not_isLineBreak_of_not_isLeadingSpace hc), hrest]
    rfl
  -- The character stands on the line that the space ends in, behind blank lines.
  rw [hcontent, hfirst, List.modifyHead_cons] at hlines
  have hink : isBlankLine (last ++ c :: first) = false := by
    simp [isBlankLine, hc]
  have hdrop :
      ((numberedLines text).dropWhile fun (line, _) => isBlankLine line) =
        (last ++ c :: first, 1 + front.length) :: more.zipIdx (1 + front.length + 1) := by
    rw [numberedLines, hlines, List.zipIdx_append, List.dropWhile_append_of_pos,
      List.zipIdx_cons, List.dropWhile_cons_of_neg (by simp [hink])]
    rintro ⟨line, number⟩ hline
    exact hblank line (List.fst_mem_of_mem_zipIdx hline)
  have hstrip : (last ++ c :: first).dropWhile isLeadingSpace = c :: first := by
    rw [List.dropWhile_append_of_pos hlast, List.dropWhile_cons_of_neg (by simp [hc])]
  rw [inkedLines, hdrop]
  simp only [hstrip]
  rw [hfirst, hlength, List.zipIdx_cons, Nat.add_comm 1 (blankBreaks text)]

theorem sourceTokens_eq (text : List Char) :
    sourceTokens text =
      tokensFrom (blankBreaks text + 1) (lines (text.dropWhile isLeadingSpace)) := by
  cases hcontent : text.dropWhile isLeadingSpace with
  | nil =>
      rw [sourceTokens, inkedLines_of_space (List.dropWhile_eq_nil_iff.mp hcontent)]
      rfl
  | cons c rest =>
      rw [sourceTokens, inkedLines_of_content hcontent]
      rfl

theorem RowCursor.items_eq_sourceTokens (text : List Char) (policy : WidthPolicy) :
    Cursor.items (ofText text policy) =
      (sourceTokens text).map (·.pack policy) := by
  rw [items_ofText, sourceTokens_eq, length_lines, blankBreaks]

/-! ## Encoding -/

theorem foldlM_push (items : List RowItem) (start : Array UInt8) :
    (items.foldlM (fun (blob : Array UInt8) (item : RowItem) => item.map blob.push)
        start).map Array.toList =
      (items.mapM id).map (start.toList ++ ·) := by
  induction items generalizing start with
  | nil => simp [pure, Except.pure, Except.map]
  | cons item items ih =>
      rw [List.foldlM_cons, List.mapM_cons]
      cases item with
      | error error => rfl
      | ok byte =>
          calc
            _ = (items.mapM id).map ((start.push byte).toList ++ ·) := ih (start.push byte)
            _ = _ := by
              cases items.mapM id with
              | error error => rfl
              | ok blob => simp [Except.map, bind, Except.bind, pure, Except.pure]

theorem encodeWith_value (policy : WidthPolicy) (text : List Char) :
    (encodeWith policy text).value =
      (Cursor.items (RowCursor.ofText text policy)).mapM id := by
  rw [encodeWith, encodeRows, RowCursor.listing.items_eq, RowCursor.listing.feed_value,
    foldlM_push]
  cases ((RowCursor.ofText text policy).toList).mapM id <;> simp [Except.map]

theorem mapM_id_eq_ok_iff {items : List RowItem} {blob : List UInt8} :
    items.mapM id = .ok blob ↔ items = blob.map .ok := by
  induction items generalizing blob with
  | nil => cases blob <;> simp [pure, Except.pure]
  | cons item items ih =>
      rw [List.mapM_cons]
      cases item with
      | error error => cases blob <;> simp [bind, Except.bind]
      | ok byte =>
          cases hitems : items.mapM id with
          | error error =>
              have hnone : ∀ more : List UInt8, items ≠ more.map .ok := by
                intro more hmore
                rw [ih.mpr hmore] at hitems
                contradiction
              cases blob <;> simp [bind, Except.bind, hnone]
          | ok bytes =>
              have hbytes : items = bytes.map .ok := ih.mp hitems
              have hinj : ∀ more : List UInt8,
                  (bytes.map .ok : List RowItem) = more.map .ok ↔ bytes = more :=
                fun more => List.map_inj_right fun _ _ => Except.ok.inj
              cases blob <;> simp [bind, Except.bind, pure, Except.pure, hbytes, hinj]

theorem encodeWith_eq_ok_iff
    {policy : WidthPolicy} {text : List Char} {blob : List UInt8} :
    (encodeWith policy text).value = .ok blob ↔
      Cursor.items (RowCursor.ofText text policy) = blob.map .ok := by
  rw [encodeWith_value, mapM_id_eq_ok_iff]

/-! ## The meaning of a source -/

def markerDigit (c : Char) : Nat :=
  if c = '.' then 0 else 1

/-- The row of a line on its own: the number that the markers opening the line
write in base two, unless there are too many of them or the policy wants more. -/
def rowOfLine? (policy : WidthPolicy) (number : Nat) (line : List Char) :
    Option (Except WidthError Nat) :=
  let markers := line.takeWhile fun c => c ∈ ['.', '*', '@']
  if markers = [] then
    none
  else if 8 < markers.length ∨ (policy = .exact ∧ markers.length ≠ 8) then
    some (.error ⟨number, markers.length, policy⟩)
  else
    some (.ok (Nat.ofDigits 2 (markers.reverse.map markerDigit)))

def sourceRows (policy : WidthPolicy) (text : List Char) :
    List (Except WidthError Nat) :=
  (inkedLines text).filterMap fun (line, number) => rowOfLine? policy number line

theorem RowToken.pack_eq
    (number : Nat) (markers : List Char) (policy : WidthPolicy) :
    ((mk number markers).pack policy).map UInt8.toNat =
      if 8 < markers.length ∨ (policy = .exact ∧ markers.length ≠ 8) then
        .error ⟨number, markers.length, policy⟩
      else
        .ok (Nat.ofDigits 2 (markers.reverse.map markerDigit)) := by
  have hallows :
      policy.allows markers.length = true ↔
        ¬(8 < markers.length ∨ (policy = .exact ∧ markers.length ≠ 8)) := by
    rw [WidthPolicy.allows_iff, not_or, not_and, not_not, Nat.not_lt]
  have hdigits :
      (markers.map (· != '.')).reverse.map Bool.toNat = markers.reverse.map markerDigit := by
    rw [← List.map_reverse, List.map_map]
    apply List.map_congr_left
    intro c hc
    by_cases hdot : c = '.' <;> simp [markerDigit, hdot]
  by_cases hwide : 8 < markers.length ∨ (policy = .exact ∧ markers.length ≠ 8)
  · rw [if_pos hwide, pack_of_not_allows fun hfits => hallows.mp hfits hwide]
    rfl
  · have hfits : (markers.map (· != '.')).length ≤ 8 := by
      rw [List.length_map]
      omega
    rw [if_neg hwide, pack_of_allows (hallows.mpr hwide), Except.map, pixels,
      toNat_foldl_pushPixel _ hfits, hdigits]

theorem rowOfLine?_eq (policy : WidthPolicy) (number : Nat) (line : List Char) :
    rowOfLine? policy number line =
      (RowToken.ofLine? number line).map fun token =>
        (token.pack policy).map UInt8.toNat := by
  have hmarker : (fun c => decide (c ∈ ['.', '*', '@'])) = isMarker := by
    funext c
    simp [isMarker, Bool.or_assoc, Bool.beq_eq_decide_eq]
  rw [rowOfLine?, RowToken.ofLine?, hmarker]
  cases hmarkers : line.takeWhile isMarker with
  | nil => simp
  | cons c markers =>
      simp only [reduceCtorEq, ↓reduceIte, Option.map_some, RowToken.pack_eq]
      split <;> rfl

/-- A source means the rows of its lines.  The lines are those of the whole
source, one more than it has breaks, and a row depends on its own line alone:
what a refused row leaves behind is what any row leaves behind. -/
theorem items_eq_sourceRows (text : List Char) (policy : WidthPolicy) :
    (lines text).length = breakCount text + 1 ∧
      (Cursor.items (RowCursor.ofText text policy)).map (Except.map UInt8.toNat) =
        sourceRows policy text := by
  refine ⟨length_lines text, ?_⟩
  rw [RowCursor.items_eq_sourceTokens, sourceTokens, sourceRows, List.map_map,
    List.map_filterMap]
  congr 1
  funext ⟨line, number⟩
  exact (rowOfLine?_eq policy number line).symm

end BitmapFont
