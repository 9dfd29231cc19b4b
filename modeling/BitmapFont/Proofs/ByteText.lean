import BitmapFont.Proofs.PreviewSource

/-!
# Texts in bytes

A text that is kept in bytes can be cut at an index only where a character begins or the
text ends, and its bytes show where: every byte of a character but the first continues it.
A slice that begins or ends anywhere else does not exist.

The indices where a text can be cut are the lengths of its beginnings.  A search for a
character steps from one of them to the next, so it finds the character that a search among
the characters finds, at the length of what is in front of it.
-/

namespace BitmapFont.Text

/-! ## Slices -/

/-- The byte belongs to a character that begins before it. -/
def isContinuation (byte : UInt8) : Bool :=
  0x80 ≤ byte.toNat && byte.toNat < 0xC0

/-- The index is within the bytes, and no character lies across it. -/
def isBoundary (bytes : List UInt8) (index : Nat) : Bool :=
  index == 0 || index == bytes.length || bytes[index]?.any fun byte => !isContinuation byte

def sliceTo? (bytes : List UInt8) (stop : Nat) : Option (List UInt8) :=
  if isBoundary bytes stop then some (bytes.take stop) else none

def sliceFrom? (bytes : List UInt8) (start : Nat) : Option (List UInt8) :=
  if isBoundary bytes start then some (bytes.drop start) else none

theorem isContinuation_add (low : Nat) :
    isContinuation (UInt8.ofNat (low % 64) + 128) = true := by
  simp [isContinuation]
  omega

/-- The first byte of a character continues none, and the others do. -/
theorem utf8EncodeChar_eq_cons (c : Char) :
    ∃ first rest, String.utf8EncodeChar c = first :: rest ∧
      isContinuation first = false ∧ ∀ byte ∈ rest, isContinuation byte = true := by
  fun_cases String.utf8EncodeChar c with
  | case1 point hpoint =>
      refine ⟨_, _, rfl, ?_, by simp⟩
      simp [isContinuation]
      omega
  | case2 point | case3 point | case4 point =>
      refine ⟨_, _, rfl, ?_, by simp [isContinuation_add]⟩
      simp [isContinuation]
      omega

theorem isBoundary_append_of_lt
    {first : UInt8} {rest : List UInt8} (more : List UInt8) {index : Nat}
    (hrest : ∀ byte ∈ rest, isContinuation byte = true) (hindex : index < (first :: rest).length) :
    isBoundary (first :: rest ++ more) index = decide (index = 0) := by
  cases index with
  | zero => simp [isBoundary]
  | succ index =>
      have hbyte : index < rest.length := by simpa using hindex
      have hinside : index ≠ rest.length + more.length := by omega
      have hcontinues := hrest _ (List.getElem_mem hbyte)
      simp [isBoundary, hinside, List.getElem?_append_left hbyte, List.getElem?_eq_getElem hbyte,
        hcontinues]

theorem isBoundary_append
    (bytes : List UInt8) {more : List UInt8} (index : Nat)
    (hmore : ∀ byte, more.head? = some byte → isContinuation byte = false) :
    isBoundary (bytes ++ more) (bytes.length + index) = isBoundary more index := by
  cases index with
  | zero =>
      cases more with
      | nil => simp [isBoundary]
      | cons byte more => simp [isBoundary, hmore byte rfl]
  | succ index =>
      have hbehind : bytes.length ≤ bytes.length + (index + 1) := by omega
      have hstart : (bytes.length + (index + 1) == 0) = false := by simp
      have hend : (bytes.length + (index + 1) == bytes.length + more.length) =
          (index + 1 == more.length) := by
        rw [Bool.eq_iff_iff, beq_iff_eq, beq_iff_eq]
        omega
      simp [isBoundary, List.getElem?_append_right hbehind, hstart, hend]

theorem isContinuation_of_head?_encodeUtf8
    {text : List Char} {byte : UInt8} (hbyte : (encodeUtf8 text).head? = some byte) :
    isContinuation byte = false := by
  cases text with
  | nil => contradiction
  | cons c text =>
      obtain ⟨first, rest, hc, hfirst, -⟩ := utf8EncodeChar_eq_cons c
      rw [encodeUtf8_cons, hc] at hbyte
      obtain rfl := Option.some.inj hbyte
      exact hfirst

/-- Where the bytes of a text can be cut, the text can. -/
theorem isBoundary_encodeUtf8_iff {text : List Char} {index : Nat} :
    isBoundary (encodeUtf8 text) index = true ↔
      ∃ before after, text = before ++ after ∧ index = (encodeUtf8 before).length := by
  constructor
  · intro hboundary
    induction text generalizing index with
    | nil =>
        obtain rfl : index = 0 := by simpa [isBoundary] using hboundary
        exact ⟨[], [], rfl, rfl⟩
    | cons c text ih =>
        obtain ⟨first, rest, hc, -, hrest⟩ := utf8EncodeChar_eq_cons c
        by_cases hindex : index < (String.utf8EncodeChar c).length
        · rw [encodeUtf8_cons, hc, isBoundary_append_of_lt _ hrest (hc ▸ hindex)] at hboundary
          exact ⟨[], c :: text, rfl, of_decide_eq_true hboundary⟩
        · obtain ⟨more, rfl⟩ := Nat.exists_eq_add_of_le (Nat.le_of_not_lt hindex)
          rw [encodeUtf8_cons,
            isBoundary_append _ more fun _ => isContinuation_of_head?_encodeUtf8] at hboundary
          obtain ⟨before, after, rfl, rfl⟩ := ih hboundary
          exact ⟨c :: before, after, rfl, by rw [encodeUtf8_cons, List.length_append]⟩
  · rintro ⟨before, after, rfl, rfl⟩
    have hafter : ∀ byte, (encodeUtf8 after).head? = some byte → isContinuation byte = false :=
      fun _ => isContinuation_of_head?_encodeUtf8
    rw [encodeUtf8_append, ← Nat.add_zero (encodeUtf8 before).length,
      isBoundary_append _ 0 hafter]
    rfl

theorem eq_drop_of_sliceFrom?
    {bytes rest : List UInt8} {start : Nat} (hslice : sliceFrom? bytes start = some rest) :
    rest = bytes.drop start := by
  unfold sliceFrom? at hslice
  split at hslice
  · exact (Option.some.inj hslice).symm
  · contradiction

theorem sliceTo?_append (before after : List Char) :
    sliceTo? (encodeUtf8 (before ++ after)) (encodeUtf8 before).length =
      some (encodeUtf8 before) := by
  have hboundary := isBoundary_encodeUtf8_iff.mpr ⟨before, after, rfl, rfl⟩
  rw [sliceTo?, if_pos hboundary, encodeUtf8_append, List.take_left]

theorem sliceFrom?_append (before after : List Char) :
    sliceFrom? (encodeUtf8 (before ++ after)) (encodeUtf8 before).length =
      some (encodeUtf8 after) := by
  have hboundary := isBoundary_encodeUtf8_iff.mpr ⟨before, after, rfl, rfl⟩
  rw [sliceFrom?, if_pos hboundary, encodeUtf8_append, List.drop_left]

/-! ## Reading characters -/

def firstChar? (bytes : List UInt8) : Option Char :=
  bytes.toByteArray.utf8DecodeChar? 0

@[simp] theorem firstChar?_nil : firstChar? [] = none := rfl

theorem firstChar?_append (c : Char) (bytes : List UInt8) :
    firstChar? (String.utf8EncodeChar c ++ bytes) = some c := by
  rw [firstChar?, List.toByteArray_append, ByteArray.utf8DecodeChar?_utf8EncodeChar_append]

theorem length_pos_of_firstChar?
    {bytes : List UInt8} {c : Char} (hfirst : firstChar? bytes = some c) : 0 < bytes.length := by
  cases bytes with
  | nil => contradiction
  | cons => simp

/-- The first character with a property and its index, counted from a start. -/
def findChar? (p : Char → Bool) (bytes : List UInt8) (start : Nat) : Option (Nat × Char) :=
  match _hfirst : firstChar? bytes with
  | none => none
  | some c =>
      if p c then some (start, c)
      else findChar? p (bytes.drop c.utf8Size) (start + c.utf8Size)
termination_by bytes.length
decreasing_by
  have hpos := length_pos_of_firstChar? _hfirst
  have hsize := c.utf8Size_pos
  rw [List.length_drop]
  omega

theorem length_pos_of_findChar?
    {p : Char → Bool} {bytes : List UInt8} {start index : Nat} {c : Char}
    (hfound : findChar? p bytes start = some (index, c)) : 0 < bytes.length := by
  rw [findChar?] at hfound
  split at hfound
  · contradiction
  · exact length_pos_of_firstChar? ‹_›

theorem findChar?_encodeUtf8 (p : Char → Bool) (text : List Char) (start : Nat) :
    findChar? p (encodeUtf8 text) start =
      (text.dropWhile (!p ·)).head?.map fun c =>
        (start + (encodeUtf8 (text.takeWhile (!p ·))).length, c) := by
  induction text generalizing start with
  | nil => simp [findChar?]
  | cons c text ih =>
      have hfirst : firstChar? (encodeUtf8 (c :: text)) = some c := firstChar?_append c _
      have hrest : (encodeUtf8 (c :: text)).drop c.utf8Size = encodeUtf8 text :=
        List.drop_left' (String.length_utf8EncodeChar c)
      rw [findChar?]
      split
      · rename_i hnone
        rw [hfirst] at hnone
        contradiction
      · rename_i d hd
        obtain rfl : c = d := Option.some.inj (hfirst.symm.trans hd)
        by_cases hc : p c = true
        · simp [hc]
        · rw [if_neg hc, hrest, ih]
          simp [hc, encodeUtf8_cons, Nat.add_assoc]

/-- One text begins another as soon as its bytes do. -/
theorem encodeUtf8_prefix_iff {text more : List Char} :
    encodeUtf8 text <+: encodeUtf8 more ↔ text <+: more := by
  constructor
  · intro hbytes
    induction text generalizing more with
    | nil => exact List.nil_prefix
    | cons c text ih =>
        obtain ⟨behind, hbehind⟩ := hbytes
        rw [encodeUtf8_cons, List.append_assoc] at hbehind
        have hfirst : firstChar? (encodeUtf8 more) = some c := by
          rw [← hbehind, firstChar?_append]
        cases more with
        | nil => contradiction
        | cons d more =>
            rw [encodeUtf8_cons, firstChar?_append] at hfirst
            obtain rfl := Option.some.inj hfirst
            rw [encodeUtf8_cons] at hbehind
            exact List.cons_prefix_cons.mpr ⟨rfl, ih ⟨behind, List.append_cancel_left hbehind⟩⟩
  · rintro ⟨behind, rfl⟩
    exact ⟨encodeUtf8 behind, (encodeUtf8_append text behind).symm⟩

end BitmapFont.Text
