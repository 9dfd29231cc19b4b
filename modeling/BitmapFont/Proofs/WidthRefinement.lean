import BitmapFont.Proofs.CompileStages
import BitmapFont.Proofs.LineRecords
import Mathlib.Data.List.Pairwise

/-!
# The exact policy as a refinement

The two policies see the same rows and differ only in the narrow ones, which one of them
packs and the other refuses.  So what the exact policy accepts the lenient one accepts
too and packs to the same byte, and where the lenient one refuses a row the exact one has
refused that row or an earlier one.
-/

namespace BitmapFont

open Text

/-! ## One row -/

/-- What becomes of a row under the exact policy and under the lenient one. -/
inductive RowToken.Refined (token : RowToken) : RowItem → RowItem → Prop
  | full (byte : UInt8) (width : token.width = 8) : Refined token (.ok byte) (.ok byte)
  | narrow (byte : UInt8) (width : token.width < 8) :
      Refined token (.error ⟨token.line, token.width, .exact⟩) (.ok byte)
  | wide (width : 8 < token.width) :
      Refined token (.error ⟨token.line, token.width, .exact⟩)
        (.error ⟨token.line, token.width, .lenient⟩)

theorem RowToken.refined (token : RowToken) :
    token.Refined (token.pack .exact) (token.pack .lenient) := by
  rcases Nat.lt_trichotomy token.width 8 with hnarrow | hfull | hwide
  · have hexact : ¬WidthPolicy.exact.allows token.width = true := by
      rw [WidthPolicy.allows_iff]
      simp
      omega
    have hlenient : WidthPolicy.lenient.allows token.width = true := by
      rw [WidthPolicy.allows_iff]
      simp
      omega
    rw [pack_of_not_allows hexact, pack_of_allows hlenient]
    exact .narrow _ hnarrow
  · have hboth (policy : WidthPolicy) : policy.allows token.width = true :=
      (policy.allows_iff _).mpr ⟨Nat.le_of_eq hfull, fun _ => hfull⟩
    rw [pack_of_allows (hboth .exact), pack_of_allows (hboth .lenient)]
    exact .full _ hfull
  · have hneither (policy : WidthPolicy) : ¬policy.allows token.width = true := by
      rw [WidthPolicy.allows_iff]
      omega
    rw [pack_of_not_allows (hneither .exact), pack_of_not_allows (hneither .lenient)]
    exact .wide hwide

/-! ## The rows of a source stand on different lines -/

theorem RowToken.line_of_ofLine?
    {number : Nat} {line : List Char} {token : RowToken}
    (hline : ofLine? number line = some token) : token.line = number := by
  unfold ofLine? at hline
  split at hline
  · contradiction
  · rw [← Option.some.inj hline]

theorem ExaminedLine.line_of_token?
    {line : ExaminedLine} {token : RowToken} (htoken : line.token? = some token) :
    token.line = line.number :=
  RowToken.line_of_ofLine? htoken

theorem pairwise_sourceTokens (text : List Char) :
    (sourceTokens text).Pairwise fun token other => token.line < other.line := by
  rw [← filterMap_token?_examinedLines .exact, List.pairwise_filterMap]
  refine (pairwise_examinedLines .exact text).imp fun hless token htoken other hother => ?_
  rw [ExaminedLine.line_of_token? htoken, ExaminedLine.line_of_token? hother]
  exact hless

/-! ## The first refusals -/

theorem exists_mem_of_firstRefusal?
    {tokens : List RowToken} {policy : WidthPolicy} {error : WidthError}
    (herror : firstRefusal? (tokens.map (·.pack policy)) = some error) :
    ∃ token ∈ tokens, error.line = token.line := by
  induction tokens with
  | nil => contradiction
  | cons token tokens ih =>
      rw [List.map_cons] at herror
      cases hpack : token.pack policy with
      | ok byte =>
          rw [hpack] at herror
          obtain ⟨other, hother, hline⟩ := ih herror
          exact ⟨other, List.mem_cons_of_mem token hother, hline⟩
      | error refusal =>
          rw [hpack] at herror
          obtain rfl := Option.some.inj herror
          have hrefused := (RowToken.refused_of_pack hpack).2
          exact ⟨token, List.mem_cons_self, congrArg WidthError.line hrefused⟩

/-- Of rows on lines further and further down, the exact policy refuses none behind the
first that the lenient one refuses. -/
theorem firstRefusal?_exact
    {tokens : List RowToken} {error : WidthError}
    (hlines : tokens.Pairwise fun token other => token.line < other.line)
    (herror : firstRefusal? (tokens.map (·.pack .lenient)) = some error) :
    ∃ earlier, firstRefusal? (tokens.map (·.pack .exact)) = some earlier ∧
      earlier.line ≤ error.line := by
  induction tokens with
  | nil => contradiction
  | cons token tokens ih =>
      obtain ⟨hbehind, hrest⟩ := List.pairwise_cons.mp hlines
      have hrefined := token.refined
      rw [List.map_cons] at herror ⊢
      generalize token.pack .exact = exact, token.pack .lenient = lenient
        at hrefined herror ⊢
      cases hrefined with
      | full byte hwidth => exact ih hrest herror
      | narrow byte hwidth =>
          obtain ⟨other, hother, hline⟩ := exists_mem_of_firstRefusal? herror
          exact ⟨_, rfl, hline ▸ Nat.le_of_lt (hbehind other hother)⟩
      | wide hwidth =>
          obtain rfl := Option.some.inj herror
          exact ⟨_, rfl, Nat.le_refl _⟩

theorem items_lenient_of_exact
    {tokens : List RowToken} {blob : List UInt8}
    (hexact : tokens.map (·.pack .exact) = blob.map .ok) :
    tokens.map (·.pack .lenient) = blob.map .ok := by
  rw [← hexact]
  apply List.map_congr_left
  intro token htoken
  have hrefined := token.refined
  have hpacked : token.pack .exact ∈ blob.map .ok := by
    rw [← hexact]
    exact List.mem_map_of_mem htoken
  obtain ⟨byte, -, hbyte⟩ := List.mem_map.mp hpacked
  generalize token.pack .exact = exact, token.pack .lenient = lenient at hrefined hbyte ⊢
  cases hrefined with
  | full => rfl
  | narrow => contradiction
  | wide => contradiction

/-! ## Whole sources -/

/-- The items of a source under the exact policy and under the lenient one go together
row by row, and so do the encodings of the source. -/
structure PoliciesAgree (text : List Char) : Prop where
  lengths : (Cursor.items (RowCursor.ofText text .exact)).length =
    (Cursor.items (RowCursor.ofText text .lenient)).length
  rows : ∀ (place : Nat) (exact lenient : RowItem),
    (Cursor.items (RowCursor.ofText text .exact))[place]? = some exact →
    (Cursor.items (RowCursor.ofText text .lenient))[place]? = some lenient →
    ∃ token : RowToken,
      (sourceTokens text)[place]? = some token ∧ token.Refined exact lenient
  wide : ∀ (policy : WidthPolicy) (place : Nat) (token : RowToken),
    (sourceTokens text)[place]? = some token → 9 ≤ token.width →
    (Cursor.items (RowCursor.ofText text policy))[place]? =
      some (.error ⟨token.line, token.width, policy⟩)
  encoded : ∀ blob,
    (encodeWith .exact text).value = .ok blob → (encodeWith .lenient text).value = .ok blob
  refused : ∀ error, (encodeWith .lenient text).value = .error error →
    ∃ earlier, (encodeWith .exact text).value = .error earlier ∧ earlier.line ≤ error.line

theorem encodeWith_eq_error_iff
    {policy : WidthPolicy} {text : List Char} {error : WidthError} :
    (encodeWith policy text).value = .error error ↔
      firstRefusal? ((sourceTokens text).map (·.pack policy)) = some error := by
  rw [encodeWith_value, mapM_id_eq, RowCursor.items_eq_sourceTokens]
  cases firstRefusal? ((sourceTokens text).map (·.pack policy)) <;> simp

theorem encodeWith_lenient_of_exact
    {text : List Char} {blob : List UInt8}
    (hexact : (encodeWith .exact text).value = .ok blob) :
    (encodeWith .lenient text).value = .ok blob := by
  rw [encodeWith_eq_ok_iff, RowCursor.items_eq_sourceTokens] at hexact ⊢
  exact items_lenient_of_exact hexact

theorem policiesAgree (text : List Char) : PoliciesAgree text where
  lengths := by
    rw [RowCursor.items_eq_sourceTokens, RowCursor.items_eq_sourceTokens, List.length_map,
      List.length_map]
  rows place exact lenient hexact hlenient := by
    rw [RowCursor.items_eq_sourceTokens, List.getElem?_map, Option.map_eq_some_iff]
      at hexact hlenient
    obtain ⟨token, htoken, rfl⟩ := hexact
    obtain ⟨other, hother, rfl⟩ := hlenient
    obtain rfl := Option.some.inj (htoken.symm.trans hother)
    exact ⟨token, htoken, token.refined⟩
  wide policy place token htoken hwide := by
    have hrefused : ¬policy.allows token.width = true := by
      rw [WidthPolicy.allows_iff]
      omega
    rw [RowCursor.items_eq_sourceTokens, List.getElem?_map, htoken, Option.map_some,
      RowToken.pack_of_not_allows hrefused]
  encoded _ hexact := encodeWith_lenient_of_exact hexact
  refused error herror := by
    rw [encodeWith_eq_error_iff] at herror
    obtain ⟨earlier, hearlier, hline⟩ :=
      firstRefusal?_exact (pairwise_sourceTokens text) herror
    exact ⟨earlier, encodeWith_eq_error_iff.mpr hearlier, hline⟩

/-! ## Compilations -/

theorem Job.result_after_lenient_of_exact
    {σ Place : Type} [FileAccess (StateM σ)] [FileSystem σ Place]
    {job : Job} {store : σ} {blob : List UInt8}
    (hexact : ({ job with policy := .exact } : Job).result store = .ok blob) :
    ({ job with policy := .lenient } : Job).result store = .ok blob ∧
      ({ job with policy := .lenient } : Job).after store =
        ({ job with policy := .exact } : Job).after store := by
  obtain ⟨hencoded, hwrite⟩ := write_of_result hexact
  obtain ⟨text, hsource, hencode⟩ := encoded_eq_ok_iff.mp hencoded
  have hlenient : ({ job with policy := .lenient } : Job).encoded store = .ok blob :=
    encoded_eq_ok_iff.mpr ⟨text, hsource, encodeWith_lenient_of_exact hencode⟩
  exact result_after_of_write_ok hlenient hwrite

/-- The exact policy refines the lenient one.  A row that it accepts is packed to the same
byte by either, a row that is too wide is accepted by neither, and in between it refuses
what the lenient policy accepts.  So an encoding or a compilation that succeeds under it
succeeds under the lenient one with the same bytes. -/
theorem exact_refines_lenient
    {σ Place : Type} [FileAccess (StateM σ)] [FileSystem σ Place] :
    (∀ text, PoliciesAgree text) ∧
      ∀ (job : Job) (store : σ) (blob : List UInt8),
        ({ job with policy := .exact } : Job).result store = .ok blob →
        ({ job with policy := .lenient } : Job).result store = .ok blob ∧
          ({ job with policy := .lenient } : Job).after store =
            ({ job with policy := .exact } : Job).after store :=
  ⟨policiesAgree, fun _ _ _ => Job.result_after_lenient_of_exact⟩

/-- A font of one full row that is compiled under the exact policy. -/
theorem exact_refines_lenient_full_row :
    let store := FileStore.empty.install ["font.txt"] (.file [64, 64, 64, 64, 64, 64, 64, 64])
    let job : Job := ⟨"font.txt", "font.bin", .exact, 16⟩
    job.result store = .ok [255] ∧
      ({ job with policy := .lenient } : Job).result store = .ok [255] ∧
      ({ job with policy := .lenient } : Job).after store = job.after store := by
  intro store job
  have htext : Text.decodeUtf8? [64, 64, 64, 64, 64, 64, 64, 64] =
      some (List.replicate 8 '@') := rfl
  have hread : FileStore.read store "font.txt" = .ok [64, 64, 64, 64, 64, 64, 64, 64] := rfl
  have hwrite : ∃ after, FileStore.write store "font.bin" [255] = .ok after := ⟨_, rfl⟩
  have hsource : job.source store = .ok (List.replicate 8 '@') := by
    change sourceText (FileStore.read store "font.txt") = _
    rw [hread]
    simp only [sourceText, htext]
  have hencode : (encodeWith .exact (List.replicate 8 '@')).value = .ok [255] := by
    rw [encodeWith_eq_ok_iff, RowCursor.items_eq_sourceTokens]
    rfl
  obtain ⟨after, hwrite⟩ := hwrite
  have hresult : job.result store = .ok [255] :=
    ((job.allOrNothing store).ok_iff [255]).mpr ⟨_, after, hsource, hencode, hwrite⟩
  exact ⟨hresult, (exact_refines_lenient (σ := FileStore)).2 job store [255] hresult⟩

end BitmapFont
