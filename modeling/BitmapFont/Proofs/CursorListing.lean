import BitmapFont.Glyph

/-!
# Cursors as lists

A listing says which items a cursor still has to hand out.  One law about a
single request makes a function of the state a listing: the item handed out is
the head of the list and the state behind it has the tail.  From that law alone
both traversals are folds over the list, whatever events are reported on the
way.
-/

namespace BitmapFont

namespace Cursor

variable {σ ι β ε : Type} [Cursor σ ι]

def items (state : σ) : List ι :=
  (collect state).value.1

/-- What one request has to do for a function of the state to list the items
still to come. -/
structure Listing (view : σ → List ι) : Prop where
  item : ∀ state, (next state).item = (view state).head?
  rest : ∀ state, view (next state).rest = (view state).tail

namespace Listing

variable {view : σ → List ι}

theorem nil_of_next
    (hview : Listing view) {state rest : σ} {events : List Event}
    (hnext : next state = ⟨none, events, rest⟩) : view state = [] := by
  have hitem := hview.item state
  rw [hnext] at hitem
  exact List.head?_eq_none_iff.mp hitem.symm

theorem cons_of_next
    (hview : Listing view) {state rest : σ} {item : ι} {events : List Event}
    (hnext : next state = ⟨some item, events, rest⟩) :
    view state = item :: view rest := by
  have hitem := hview.item state
  have hrest := hview.rest state
  rw [hnext] at hitem hrest
  obtain ⟨tail, htail⟩ := List.head?_eq_some_iff.mp hitem.symm
  rw [hrest, htail, List.tail_cons]

theorem foldFrom_value
    (hview : Listing view) (combine : β → ι → β) (state : σ) (result : β)
    (log : Array Event) :
    (foldFrom combine state result log).value.1 =
      (view state).foldl combine result := by
  fun_induction foldFrom combine state result log with
  | case1 state result log events rest hnext =>
      simp [hview.nil_of_next hnext]
  | case2 state result log item events rest hnext ih =>
      rw [ih, hview.cons_of_next hnext, List.foldl_cons]

theorem fold_value
    (hview : Listing view) (combine : β → ι → β) (start : β) (state : σ) :
    (fold combine start state).value.1 = (view state).foldl combine start :=
  hview.foldFrom_value combine state start #[]

/-- What is handed out is what is listed. -/
theorem items_eq (hview : Listing view) (state : σ) : items state = view state := by
  simp [items, collect, hview.fold_value]

theorem feedFrom_value
    (hview : Listing view) (combine : β → ι → Except ε β) (state : σ) (result : β)
    (log : Array Event) :
    (feedFrom combine state result log).value =
      (view state).foldlM combine result := by
  fun_induction feedFrom combine state result log with
  | case1 state result log events rest hnext =>
      rw [hview.nil_of_next hnext, List.foldlM_nil]
      rfl
  | case2 state result log item events rest hnext next hcombine ih =>
      rw [ih, hview.cons_of_next hnext, List.foldlM_cons, hcombine]
      rfl
  | case3 state result log item events rest hnext refusal hcombine =>
      rw [hview.cons_of_next hnext, List.foldlM_cons, hcombine]
      rfl

theorem feed_value
    (hview : Listing view) (combine : β → ι → Except ε β) (start : β) (state : σ) :
    (feed combine start state).value = (view state).foldlM combine start :=
  hview.feedFrom_value combine state start #[]

end Listing

end Cursor

/-! ## Pixels and rows -/

namespace PixelCursor

def toList (cursor : PixelCursor) : List Bool :=
  cursor.row.pixels.drop cursor.position

theorem listing : Cursor.Listing toList where
  item cursor := by
    change cursor.next.item = _
    rw [toList, List.head?_drop, next]
    by_cases hleft : cursor.position < 8
    · simp [hleft, GlyphRow.pixels]
    · simp [hleft, GlyphRow.pixels]
  rest cursor := by
    change toList cursor.next.rest = _
    rw [toList, toList, List.tail_drop, next]
    by_cases hleft : cursor.position < 8
    · simp [hleft]
    · have hend : cursor.row.pixels.length ≤ cursor.position := by
        simp [GlyphRow.pixels]
        omega
      simp [hleft, List.drop_of_length_le hend,
        List.drop_of_length_le (Nat.le_succ_of_le hend)]

@[simp] theorem items_ofRow (row : GlyphRow) : Cursor.items (ofRow row) = row.pixels :=
  listing.items_eq (ofRow row)

end PixelCursor

namespace GlyphCursor

def toList (cursor : GlyphCursor) : List GlyphRow :=
  cursor.rows.map GlyphRow.mk

theorem listing : Cursor.Listing toList where
  item cursor := by
    obtain ⟨rows⟩ := cursor
    cases rows <;> rfl
  rest cursor := by
    obtain ⟨rows⟩ := cursor
    cases rows <;> rfl

@[simp] theorem items_ofGlyph (glyph : Glyph) :
    Cursor.items (ofGlyph glyph) = glyph.rows.map GlyphRow.mk :=
  listing.items_eq (ofGlyph glyph)

end GlyphCursor

end BitmapFont
