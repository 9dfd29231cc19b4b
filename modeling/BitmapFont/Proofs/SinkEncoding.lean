import BitmapFont.Proofs.SourceRows

/-!
# Encoding into a sink

Two things can stop an encoding into a sink: a row that is refused and a sink
that is full.  What decides between them is how many rows stand before the first
refused one.  If the sink has no room for all of these it fills up first; if it
has, the refused row is found before anything more is written, even when the sink
is already full.

A sink is described by the bytes poured into it, of which it holds as many as it
has room for.  The run keeps the invariant that all bytes so far have fitted and
have been counted.
-/

namespace BitmapFont

/-! ## Pouring into a sink -/

namespace Sink

/-- A sink of this capacity has room for so many bytes. -/
def Fits (capacity : Option Nat) (size : Nat) : Prop :=
  ∀ limit ∈ capacity, size ≤ limit

instance (capacity : Option Nat) (size : Nat) : Decidable (Fits capacity size) :=
  inferInstanceAs (Decidable (∀ limit ∈ capacity, size ≤ limit))

/-- A sink after bytes have been poured into it. -/
def poured (capacity : Option Nat) (bytes : List UInt8) : Sink :=
  match capacity with
  | none => ⟨none, bytes.toArray⟩
  | some limit => ⟨some limit, (bytes.take limit).toArray⟩

@[simp] theorem fits_none (size : Nat) : Fits none size := by
  simp [Fits]

@[simp] theorem fits_some (limit size : Nat) : Fits (some limit) size ↔ size ≤ limit := by
  simp [Fits]

theorem Fits.of_le
    {capacity : Option Nat} {size less : Nat}
    (hfits : Fits capacity size) (hless : less ≤ size) : Fits capacity less :=
  fun limit hlimit => Nat.le_trans hless (hfits limit hlimit)

theorem poured_of_fits
    {capacity : Option Nat} {bytes : List UInt8} (hfits : Fits capacity bytes.length) :
    poured capacity bytes = ⟨capacity, bytes.toArray⟩ := by
  cases capacity with
  | none => rfl
  | some limit =>
      rw [fits_some] at hfits
      simp only [poured, List.take_of_length_le hfits]

/-- Beyond its capacity nothing that is poured into a sink matters. -/
theorem poured_append_of_not_fits
    {capacity : Option Nat} {bytes : List UInt8} (more : List UInt8)
    (hfull : ¬Fits capacity bytes.length) :
    poured capacity (bytes ++ more) = poured capacity bytes := by
  cases capacity with
  | none => exact absurd (fits_none _) hfull
  | some limit =>
      rw [fits_some, Nat.not_le] at hfull
      simp only [poured, List.take_append_of_le_length (Nat.le_of_lt hfull)]

theorem write_poured
    {capacity : Option Nat} {before : List UInt8} (bytes : List UInt8)
    (hbefore : Fits capacity before.length) :
    (poured capacity before).write bytes =
      if Fits capacity (before ++ bytes).length then
        .ok (poured capacity (before ++ bytes))
      else
        .error (poured capacity (before ++ bytes)) := by
  cases capacity with
  | none => simp [poured, write]
  | some limit =>
      rw [fits_some] at hbefore
      have hroom : bytes.length ≤ limit - before.length ↔
          before.length + bytes.length ≤ limit := by omega
      simp only [poured, write, fits_some, List.length_append, List.take_of_length_le hbefore,
        List.size_toArray, hroom, List.take_append]
      by_cases hfits : before.length + bytes.length ≤ limit
      · rw [if_pos hfits, if_pos hfits, List.take_of_length_le (by omega)]
        simp
      · rw [if_neg hfits, if_neg hfits]
        simp

end Sink

/-! ## Rows before a refusal -/

/-- The bytes of the rows before the first that is refused. -/
def rowsBeforeRefusal : List RowItem → List UInt8
  | [] => []
  | .ok byte :: items => byte :: rowsBeforeRefusal items
  | .error _ :: _ => []

def firstRefusal? : List RowItem → Option WidthError
  | [] => none
  | .ok _ :: items => firstRefusal? items
  | .error error :: _ => some error

theorem mapM_id_eq (items : List RowItem) :
    items.mapM id =
      match firstRefusal? items with
      | none => .ok (rowsBeforeRefusal items)
      | some error => .error error := by
  induction items with
  | nil => rfl
  | cons item items ih =>
      rw [List.mapM_cons]
      cases item with
      | error error => rfl
      | ok byte =>
          simp only [id_eq, firstRefusal?, rowsBeforeRefusal, ih]
          cases firstRefusal? items <;> rfl

/-! ## Writing rows -/

/-- What has been written once some rows have been poured into a sink. -/
def Written.ofRows (capacity : Option Nat) (rows : List UInt8) : Written :=
  ⟨rows.length, .poured capacity rows⟩

theorem Written.push_ok
    {capacity : Option Nat} {rows : List UInt8} (byte : UInt8)
    (hrows : Sink.Fits capacity rows.length) :
    (ofRows capacity rows).push (.ok byte) =
      if Sink.Fits capacity (rows ++ [byte]).length then
        .ok (ofRows capacity (rows ++ [byte]))
      else
        .error (.full, .poured capacity (rows ++ [byte])) := by
  simp only [push, ofRows, Sink.write_poured [byte] hrows]
  by_cases hfits : Sink.Fits capacity (rows ++ [byte]).length
  · rw [if_pos hfits, if_pos hfits, List.length_append, List.length_singleton]
  · rw [if_neg hfits, if_neg hfits]

/-- A run over rows from a sink that has held all it was given so far. -/
theorem foldlM_push_ofRows
    {capacity : Option Nat} {rows : List UInt8} (items : List RowItem)
    (hrows : Sink.Fits capacity rows.length) :
    items.foldlM Written.push (.ofRows capacity rows) =
      if Sink.Fits capacity (rows ++ rowsBeforeRefusal items).length then
        match firstRefusal? items with
        | none => .ok (.ofRows capacity (rows ++ rowsBeforeRefusal items))
        | some error => .error (.row error, .poured capacity (rows ++ rowsBeforeRefusal items))
      else
        .error (.full, .poured capacity (rows ++ rowsBeforeRefusal items)) := by
  induction items generalizing rows with
  | nil =>
      rw [rowsBeforeRefusal, List.append_nil, if_pos hrows]
      rfl
  | cons item items ih =>
      rw [List.foldlM_cons]
      cases item with
      | error error =>
          rw [rowsBeforeRefusal, List.append_nil, if_pos hrows]
          rfl
      | ok byte =>
          have hsplit : rows ++ rowsBeforeRefusal (.ok byte :: items) =
              rows ++ [byte] ++ rowsBeforeRefusal items := by
            simp [rowsBeforeRefusal]
          rw [Written.push_ok byte hrows, hsplit]
          by_cases hnext : Sink.Fits capacity (rows ++ [byte]).length
          · rw [if_pos hnext]
            exact ih hnext
          · -- The sink is full here, so what it holds does not change any more.
            have hlater : ¬Sink.Fits capacity (rows ++ [byte] ++ rowsBeforeRefusal items).length :=
              fun hfits => hnext (hfits.of_le (by simp))
            rw [if_neg hnext, if_neg hlater, Sink.poured_append_of_not_fits _ hnext]
            rfl

theorem encodeInto_value (policy : WidthPolicy) (text : List Char) (capacity : Option Nat) :
    (encodeInto policy text (.ofCapacity capacity)).value =
      (Cursor.items (RowCursor.ofText text policy)).foldlM Written.push
        (.ofRows capacity []) := by
  have hempty : (⟨0, .ofCapacity capacity⟩ : Written) = .ofRows capacity [] := by
    cases capacity <;> simp [Written.ofRows, Sink.poured, Sink.ofCapacity]
  rw [encodeInto, writeRows, RowCursor.listing.feed_value, RowCursor.listing.items_eq, hempty]

theorem encodeInto_of_not_fits
    {policy : WidthPolicy} {text : List Char} {limit : Nat}
    (hfull :
      limit < (rowsBeforeRefusal (Cursor.items (RowCursor.ofText text policy))).length) :
    (encodeInto policy text (.ofCapacity (some limit))).value =
      .error (.full, .poured (some limit)
        (rowsBeforeRefusal (Cursor.items (RowCursor.ofText text policy)))) := by
  have hempty : Sink.Fits (some limit) ([] : List UInt8).length := by simp
  rw [encodeInto_value, foldlM_push_ofRows _ hempty, List.nil_append, if_neg]
  rw [Sink.fits_some, Nat.not_le]
  exact hfull

theorem encodeInto_of_fits
    {policy : WidthPolicy} {text : List Char} {capacity : Option Nat}
    (hfits : Sink.Fits capacity
      (rowsBeforeRefusal (Cursor.items (RowCursor.ofText text policy))).length) :
    (encodeInto policy text (.ofCapacity capacity)).value =
      match (encodeWith policy text).value with
      | .ok blob => .ok ⟨blob.length, ⟨capacity, blob.toArray⟩⟩
      | .error error => .error (.row error, ⟨capacity,
          (rowsBeforeRefusal (Cursor.items (RowCursor.ofText text policy))).toArray⟩) := by
  have hempty : Sink.Fits capacity ([] : List UInt8).length := hfits.of_le (Nat.zero_le _)
  rw [encodeInto_value, foldlM_push_ofRows _ hempty, List.nil_append, if_pos hfits,
    encodeWith_value, mapM_id_eq]
  cases firstRefusal? (Cursor.items (RowCursor.ofText text policy)) with
  | none => simp only [Written.ofRows, Sink.poured_of_fits hfits]
  | some error => simp only [Sink.poured_of_fits hfits]

theorem encodeInto_unbounded (policy : WidthPolicy) (text : List Char) :
    (encodeInto policy text .unbounded).value =
      match (encodeWith policy text).value with
      | .ok blob => .ok ⟨blob.length, ⟨none, blob.toArray⟩⟩
      | .error error => .error (.row error, ⟨none,
          (rowsBeforeRefusal (Cursor.items (RowCursor.ofText text policy))).toArray⟩) :=
  encodeInto_of_fits (Sink.fits_none _)

/-- The ways of encoding a source agree on its items.  Encoding it as a whole gives
all its rows or the first refusal.  Encoding it into a sink that cannot hold the
rows before that refusal fills the sink with the first of them; into any other
sink, one that these rows fill exactly included, it writes them all and then
succeeds or reports the refusal. -/
theorem encodeInto_agrees_with_encodeWith (policy : WidthPolicy) (text : List Char) :
    let items := Cursor.items (RowCursor.ofText text policy)
    let rows := rowsBeforeRefusal items
    (encodeWith policy text).value =
        (match firstRefusal? items with
        | none => .ok rows
        | some error => .error error) ∧
      (∀ limit : Nat,
        (encodeInto policy text (.ofCapacity (some limit))).value =
          if limit < rows.length then
            .error (.full, ⟨some limit, (rows.take limit).toArray⟩)
          else
            match firstRefusal? items with
            | none => .ok ⟨rows.length, ⟨some limit, rows.toArray⟩⟩
            | some error => .error (.row error, ⟨some limit, rows.toArray⟩)) ∧
      (encodeInto policy text .unbounded).value =
        match (encodeWith policy text).value with
        | .ok blob => .ok ⟨blob.length, ⟨none, blob.toArray⟩⟩
        | .error error => .error (.row error, ⟨none, rows.toArray⟩) := by
  intro items rows
  have hwhole : (encodeWith policy text).value =
      match firstRefusal? items with
      | none => .ok rows
      | some error => .error error := by
    rw [encodeWith_value, mapM_id_eq]
  refine ⟨hwhole, ?_, ?_⟩
  · intro limit
    by_cases hfull : limit < rows.length
    · rw [if_pos hfull]
      exact encodeInto_of_not_fits hfull
    · have hfits : Sink.Fits (some limit) rows.length := by
        rw [Sink.fits_some]
        exact Nat.not_lt.mp hfull
      rw [if_neg hfull, encodeInto_of_fits hfits, hwhole]
      cases firstRefusal? items <;> rfl
  · exact encodeInto_unbounded policy text

end BitmapFont
