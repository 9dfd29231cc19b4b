import BitmapFont.Text.Line

/-!
# The structure of lines

A line cursor hands out the lines of a text exactly as the recursion on its
characters lists them.  The two laws of that list used everywhere else say what
the lines of a concatenation are: the last line of the first part runs on into
the first line of the second, unless a carriage return and a line feed meet at
the joint and become one break.  A text that ends every line with a line feed
has just those lines and an empty one behind them.
-/

namespace BitmapFont.Text

/-! ## One character at a time -/

theorem dropBreak_eq_of_ne_return
    {c : Char} {rest : List Char} (hc : c ≠ '\r') :
    dropBreak (c :: rest) = rest := by
  rw [dropBreak]
  intro tail hreturn
  contradiction

/-- A break and what follows it fall apart before any text behind them, unless
they are a lone carriage return that would swallow a line feed. -/
theorem dropBreak_append
    {c : Char} {rest behind : List Char}
    (hmeet : ¬(c :: rest = ['\r'] ∧ behind.head? = some '\n')) :
    dropBreak (c :: (rest ++ behind)) = dropBreak (c :: rest) ++ behind := by
  by_cases hc : c = '\r'
  · subst c
    cases rest with
    | nil =>
        cases behind with
        | nil => rfl
        | cons d tail =>
            have hd : d ≠ '\n' := by
              rintro rfl
              exact hmeet ⟨rfl, rfl⟩
            simp [dropBreak, hd]
    | cons d tail =>
        by_cases hd : d = '\n'
        · subst d
          rfl
        · simp [dropBreak, hd]
  · rw [dropBreak_eq_of_ne_return hc, dropBreak_eq_of_ne_return hc]

theorem dropBreak_suffix (text : List Char) : dropBreak text <:+ text := by
  unfold dropBreak
  split
  · exact ⟨['\r', '\n'], rfl⟩
  · exact List.suffix_cons _ _
  · exact List.suffix_rfl

/-- Induction along the breaks of a text: a carriage return and its line feed
are passed in one step. -/
@[elab_as_elim] theorem breakInduction
    {motive : List Char → Prop}
    (nil : motive [])
    (atBreak : ∀ c rest, isLineBreak c = true →
      motive (dropBreak (c :: rest)) → motive (c :: rest))
    (inLine : ∀ c rest, isLineBreak c = false → motive rest → motive (c :: rest))
    (text : List Char) : motive text := by
  induction hlength : text.length using Nat.strongRecOn generalizing text with
  | ind length ih =>
      cases text with
      | nil => exact nil
      | cons c rest =>
          have hrest : rest.length < length := by
            simp only [List.length_cons] at hlength
            omega
          cases hc : isLineBreak c with
          | false => exact inLine c rest hc (ih _ hrest rest rfl)
          | true =>
              have hdrop : (dropBreak (c :: rest)).length < length := by
                have hle := length_dropBreak_le (c :: rest)
                simp only [List.length_cons] at hle hlength
                omega
              exact atBreak c rest hc (ih _ hdrop _ rfl)

@[simp] theorem lines_nil : lines [] = [[]] := rfl

/-- At a character that does not begin a return with its line feed. -/
theorem lines_of_single
    {c : Char} {rest : List Char} (hsingle : ∀ tail, c = '\r' → rest = '\n' :: tail → False) :
    lines (c :: rest) =
      if isLineBreak c then [] :: lines rest
      else
        match lines rest with
        | [] => [[c]]
        | line :: more => (c :: line) :: more := by
  rw [lines.eq_def]
  split
  · contradiction
  · rename_i tail hpair
    obtain ⟨hreturn, hfeed⟩ := List.cons.inj hpair
    exact (hsingle tail hreturn hfeed).elim
  · rename_i hcons
    obtain ⟨rfl, rfl⟩ := List.cons.inj hcons
    rfl

theorem breakCount_of_single
    {c : Char} {rest : List Char} (hsingle : ∀ tail, c = '\r' → rest = '\n' :: tail → False) :
    breakCount (c :: rest) = breakCount rest + if isLineBreak c then 1 else 0 := by
  rw [breakCount.eq_def]
  split
  · contradiction
  · rename_i tail hpair
    obtain ⟨hreturn, hfeed⟩ := List.cons.inj hpair
    exact (hsingle tail hreturn hfeed).elim
  · rename_i hcons
    obtain ⟨rfl, rfl⟩ := List.cons.inj hcons
    rfl

theorem lines_of_break
    {c : Char} (rest : List Char) (hc : isLineBreak c = true) :
    lines (c :: rest) = [] :: lines (dropBreak (c :: rest)) := by
  by_cases hpair : ∃ tail, c = '\r' ∧ rest = '\n' :: tail
  · obtain ⟨tail, rfl, rfl⟩ := hpair
    rfl
  · have hsingle : ∀ tail, c = '\r' → rest = '\n' :: tail → False :=
      fun tail hreturn hfeed => hpair ⟨tail, hreturn, hfeed⟩
    rw [lines_of_single hsingle, if_pos hc, dropBreak]
    exact hsingle

theorem lines_ne_nil (text : List Char) : lines text ≠ [] := by
  fun_cases lines text <;> simp

theorem lines_of_not_break
    {c : Char} (rest : List Char) (hc : isLineBreak c = false) :
    lines (c :: rest) = (lines rest).modifyHead (c :: ·) := by
  have hne := lines_ne_nil rest
  have hsingle : ∀ tail, c = '\r' → rest = '\n' :: tail → False := by
    rintro tail rfl
    exact absurd hc (by decide)
  rw [lines_of_single hsingle, if_neg (by simp [hc])]
  cases hrest : lines rest with
  | nil => contradiction
  | cons line more => rfl

/-! ## Counting -/

theorem length_lines (text : List Char) :
    (lines text).length = breakCount text + 1 := by
  fun_induction lines text with
  | case1 => rfl
  | case2 rest ih => exact congrArg (· + 1) ih
  | case3 c rest hsingle hc ih =>
      rw [breakCount_of_single hsingle, if_pos hc, List.length_cons, ih]
  | case4 c rest hsingle hc hrest ih => exact absurd hrest (lines_ne_nil rest)
  | case5 c rest hsingle hc line more hrest ih =>
      rw [hrest] at ih
      rw [breakCount_of_single hsingle, if_neg hc]
      simpa using ih

theorem mem_of_mem_lines
    {text line : List Char} {c : Char}
    (hline : line ∈ lines text) (hc : c ∈ line) : c ∈ text := by
  induction text using breakInduction generalizing line with
  | nil =>
      obtain rfl : line = [] := List.mem_singleton.mp hline
      contradiction
  | atBreak d rest hd ih =>
      rw [lines_of_break rest hd, List.mem_cons] at hline
      rcases hline with rfl | hline
      · contradiction
      · exact (dropBreak_suffix _).mem (ih hline hc)
  | inLine d rest hd ih =>
      obtain ⟨first, more, hrest⟩ := List.exists_cons_of_ne_nil (lines_ne_nil rest)
      rw [lines_of_not_break rest hd, hrest, List.modifyHead_cons,
        List.mem_cons] at hline
      rw [hrest] at ih
      rcases hline with rfl | hline
      · rcases List.mem_cons.mp hc with rfl | hc
        · exact List.mem_cons_self
        · exact List.mem_cons_of_mem d (ih List.mem_cons_self hc)
      · exact List.mem_cons_of_mem d
          (ih (List.mem_cons_of_mem first hline) hc)

/-! ## Lines of a concatenation -/

/-- Lets the last line of the first list run on into the first of the second. -/
def joinLines : List (List Char) → List (List Char) → List (List Char)
  | [], behind => behind
  | [line], behind => behind.modifyHead (line ++ ·)
  | line :: next :: more, behind => line :: joinLines (next :: more) behind

theorem joinLines_cons
    (line : List Char) {more : List (List Char)} (behind : List (List Char))
    (hmore : more ≠ []) :
    joinLines (line :: more) behind = line :: joinLines more behind := by
  cases more with
  | nil => contradiction
  | cons next more => rfl

theorem joinLines_modifyHead
    (c : Char) {before : List (List Char)} (behind : List (List Char))
    (hbefore : before ≠ []) :
    joinLines (before.modifyHead (c :: ·)) behind =
      (joinLines before behind).modifyHead (c :: ·) := by
  cases before with
  | nil => contradiction
  | cons line more =>
      cases more with
      | nil =>
          cases behind with
          | nil => rfl
          | cons first behind => rfl
      | cons next more => rfl

/-- The lines of a concatenation whose joint lies in no break. -/
theorem lines_append
    {before behind : List Char}
    (hmeet : ¬(before.getLast? = some '\r' ∧ behind.head? = some '\n')) :
    lines (before ++ behind) = joinLines (lines before) (lines behind) := by
  induction before using breakInduction with
  | nil =>
      obtain ⟨first, more, hbehind⟩ := List.exists_cons_of_ne_nil (lines_ne_nil behind)
      rw [List.nil_append, hbehind]
      rfl
  | atBreak c rest hc ih =>
      -- The break at the head could grow only if it were a return and all there is.
      have hfirst : ¬(c :: rest = ['\r'] ∧ behind.head? = some '\n') := by
        rintro ⟨hreturn, hfeed⟩
        exact hmeet ⟨by rw [hreturn]; rfl, hfeed⟩
      have hlater :
          ¬((dropBreak (c :: rest)).getLast? = some '\r' ∧
            behind.head? = some '\n') := by
        rintro ⟨hreturn, hfeed⟩
        obtain ⟨front, hfront⟩ := dropBreak_suffix (c :: rest)
        refine hmeet ⟨?_, hfeed⟩
        rw [← hfront, List.getLast?_append, hreturn]
        rfl
      rw [List.cons_append, lines_of_break _ hc, dropBreak_append hfirst, ih hlater,
        lines_of_break rest hc, joinLines_cons _ _ (lines_ne_nil _)]
  | inLine c rest hc ih =>
      have hlater :
          ¬(rest.getLast? = some '\r' ∧ behind.head? = some '\n') := by
        rintro ⟨hreturn, hfeed⟩
        refine hmeet ⟨?_, hfeed⟩
        rw [List.getLast?_cons, hreturn]
        rfl
      rw [List.cons_append, lines_of_not_break _ hc, ih hlater, lines_of_not_break rest hc,
        joinLines_modifyHead c _ (lines_ne_nil rest)]

theorem joinLines_concat
    (front : List (List Char)) (last : List Char) (behind : List (List Char)) :
    joinLines (front ++ [last]) behind = front ++ behind.modifyHead (last ++ ·) := by
  induction front with
  | nil => rfl
  | cons line front ih =>
      rw [List.cons_append, joinLines_cons _ _ (by simp), ih, List.cons_append]

theorem joinLines_empty_line
    {before : List (List Char)} (behind : List (List Char)) (hbefore : before ≠ []) :
    joinLines before ([] :: behind) = before ++ behind := by
  obtain ⟨front, last, rfl⟩ : ∃ front last, before = front ++ [last] :=
    ⟨_, _, (List.dropLast_concat_getLast hbefore).symm⟩
  rw [joinLines_concat, List.modifyHead_cons, List.append_nil, List.append_assoc,
    List.singleton_append]

theorem lines_of_unbroken
    {line : List Char} (hline : ∀ c ∈ line, isLineBreak c = false) : lines line = [line] := by
  induction line with
  | nil => rfl
  | cons c line ih =>
      have hrest : lines line = [line] := ih fun d hd => hline d (List.mem_cons_of_mem c hd)
      rw [lines_of_not_break _ (hline c List.mem_cons_self), hrest]
      rfl

theorem lines_line_append
    {line : List Char} (rest : List Char)
    (hline : ∀ c ∈ line, isLineBreak c = false) :
    lines (line ++ '\n' :: rest) = line :: lines rest := by
  have hmeet : ¬(line.getLast? = some '\r' ∧ ('\n' :: rest).head? = some '\n') := by
    rintro ⟨hreturn, -⟩
    exact absurd (hline '\r' (List.mem_of_getLast? hreturn)) (by decide)
  rw [lines_append hmeet, lines_of_unbroken hline, lines_of_break rest (by decide),
    joinLines_empty_line _ (List.cons_ne_nil _ _)]
  rfl

def closeLines (closed : List (List Char)) : List Char :=
  closed.flatMap fun line => line ++ ['\n']

@[simp] theorem closeLines_nil : closeLines [] = [] := rfl

@[simp] theorem closeLines_cons (line : List Char) (closed : List (List Char)) :
    closeLines (line :: closed) = line ++ '\n' :: closeLines closed := by
  simp [closeLines]

@[simp] theorem closeLines_append (closed more : List (List Char)) :
    closeLines (closed ++ more) = closeLines closed ++ closeLines more := by
  simp [closeLines]

theorem lines_closeLines
    {closed : List (List Char)}
    (hclosed : ∀ line ∈ closed, ∀ c ∈ line, isLineBreak c = false) :
    lines (closeLines closed) = closed ++ [[]] := by
  induction closed with
  | nil => rfl
  | cons line closed ih =>
      rw [closeLines_cons, lines_line_append _ (hclosed line List.mem_cons_self),
        ih fun other hother => hclosed other (List.mem_cons_of_mem line hother)]
      rfl

/-! ## The cursor -/

namespace LineCursor

def toList (cursor : LineCursor) : List (List Char) :=
  match cursor.rest with
  | none => []
  | some text => lines text

@[simp] theorem toList_ofText (text : List Char) :
    (ofText text).toList = lines text := rfl

theorem next_some_text (text : List Char) :
    ∃ after, (⟨some text⟩ : LineCursor).next =
        some (text.takeWhile fun c => !isLineBreak c, after) ∧
      lines text = (text.takeWhile fun c => !isLineBreak c) :: after.toList := by
  induction text with
  | nil => exact ⟨⟨none⟩, rfl, rfl⟩
  | cons c rest ih =>
      cases hc : isLineBreak c with
      | true =>
          refine ⟨⟨some (dropBreak (c :: rest))⟩, ?_, ?_⟩
          · simp [next, hc]
          · simp [hc, lines_of_break rest hc, toList]
      | false =>
          obtain ⟨after, hnext, hlines⟩ := ih
          refine ⟨after, ?_, ?_⟩
          · simp only [next, List.takeWhile_cons, List.dropWhile_cons, hc] at hnext ⊢
            revert hnext
            cases rest.dropWhile fun d => !isLineBreak d <;> simp
          · rw [lines_of_not_break rest hc, hlines]
            simp [hc]

theorem toList_of_next_eq_none
    {cursor : LineCursor} (hnext : cursor.next = none) : cursor.toList = [] := by
  obtain ⟨rest⟩ := cursor
  cases rest with
  | none => rfl
  | some text =>
      obtain ⟨after, hsome, -⟩ := next_some_text text
      rw [hsome] at hnext
      contradiction

theorem toList_of_next_eq_some
    {cursor after : LineCursor} {line : List Char}
    (hnext : cursor.next = some (line, after)) :
    cursor.toList = line :: after.toList := by
  obtain ⟨rest⟩ := cursor
  cases rest with
  | none => simp [next] at hnext
  | some text =>
      obtain ⟨after', hsome, hlines⟩ := next_some_text text
      rw [hsome, Option.some.injEq, Prod.mk.injEq] at hnext
      obtain ⟨rfl, rfl⟩ := hnext
      exact hlines

theorem countFrom_eq (cursor : LineCursor) (counted : Nat) :
    cursor.countFrom counted = counted + cursor.toList.length := by
  fun_induction countFrom cursor counted with
  | case1 cursor counted hnext => simp [toList_of_next_eq_none hnext]
  | case2 cursor counted line after hnext ih =>
      rw [ih, toList_of_next_eq_some hnext, List.length_cons]
      omega

theorem count_ofText (text : List Char) :
    (ofText text).count = (lines text).length := by
  rw [count, countFrom_eq, toList_ofText, Nat.zero_add]

end LineCursor

end BitmapFont.Text
