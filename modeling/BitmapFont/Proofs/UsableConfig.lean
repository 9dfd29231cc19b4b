import BitmapFont.Proofs.GlyphLookup
import BitmapFont.Proofs.WordEffects

/-!
# Usable configurations

A value is taken over only by being accepted, so whatever words a command line is made
of, a configuration comes out of it only with paths that are not empty and a height that
is not zero.  A compilation and a preview therefore never meet the cases that they keep for
glyphs without rows.
-/

namespace BitmapFont.CommandLine

/-! ## Values that have been accepted -/

/-- Each value is one that its argument takes. -/
structure Given.Sound (given : Given) : Prop where
  font : given.font ≠ some ""
  output : given.output ≠ some ""
  glyphHeight : given.glyphHeight ≠ some 0

theorem Given.Sound.accept
    {given after : Given} {argument : ValueArgument} {value : Option String}
    (hsound : given.Sound) (haccept : given.accept argument value = .ok after) :
    after.Sound := by
  cases value with
  | none => contradiction
  | some value =>
      have hset := Given.set_of_accept haccept
      cases argument with
      | font =>
          simp only [Given.set] at hset
          split at hset
          · contradiction
          · obtain rfl := Except.ok.inj hset
            exact { hsound with font := by simp_all }
      | output =>
          simp only [Given.set] at hset
          split at hset
          · contradiction
          · obtain rfl := Except.ok.inj hset
            exact { hsound with output := by simp_all }
      | preview =>
          obtain rfl := Except.ok.inj hset
          exact { hsound with }
      | glyphHeight =>
          simp only [Given.set] at hset
          split at hset
          · rename_i height hread
            obtain rfl := Except.ok.inj hset
            have hheight := ne_zero_of_readHeight hread
            exact { hsound with glyphHeight := by simpa using hheight }
          · contradiction

theorem Given.Sound.raise
    {given after : Given} {flag : Flag}
    (hsound : given.Sound) (hraise : given.raise flag = .ok after) : after.Sound := by
  cases flag with
  | help => contradiction
  | verbose =>
      obtain rfl := Except.ok.inj hraise
      exact { hsound with }
  | exactWidth =>
      simp only [Given.raise] at hraise
      split at hraise
      · contradiction
      · obtain rfl := Except.ok.inj hraise
        exact { hsound with }

namespace Progress

variable {progress next : Progress} {effect : Effect}

theorem Settled.sound
    (hsettled : progress.Settled next) (hsound : progress.given.Sound) : next.given.Sound := by
  cases hsettled with
  | nothing => exact hsound
  | accepted _ haccept => exact hsound.accept haccept

theorem Performed.sound
    (hperformed : progress.Performed effect next) (hsound : progress.given.Sound) :
    next.given.Sound := by
  cases hperformed with
  | separate => exact hsound
  | begin _ _ hsettled => exact hsettled.sound hsound
  | attach hsettled haccept => exact (hsettled.sound hsound).accept haccept
  | flag hsettled hraise => exact (hsettled.sound hsound).raise hraise
  | fill => exact hsound

theorem sound_of_words
    {words : List String}
    (hsound : progress.given.Sound) (hnext : words.foldlM Progress.word progress = .ok next) :
    next.given.Sound := by
  refine foldlM_preserves (fun _ state => state.given.Sound) ?_ hsound hnext
  intro word rest state after hstate hafter
  rw [word_eq] at hafter
  exact foldlM_preserves (fun _ state => state.given.Sound)
    (fun effect rest state after hstate hafter => (performed hafter).sound hstate)
    hstate hafter

theorem ne_empty_of_outputPath
    {given : Given} {environment : Option String} {path : String}
    (hsound : given.Sound) (hpath : outputPath given environment = .ok path) : path ≠ "" := by
  unfold outputPath at hpath
  split at hpath
  · rename_i output houtput
    obtain rfl := Except.ok.inj hpath
    rintro rfl
    exact hsound.output houtput
  · obtain rfl := Except.ok.inj hpath
    decide
  · split at hpath
    · contradiction
    · obtain rfl := Except.ok.inj hpath
      simp_all

/-- What a progress comes to at the end of the words. -/
theorem finished
    {environment : Option String} {config : Config}
    (hfinish : progress.finish environment = .ok config) :
    ∃ settled, progress.settle = .ok settled ∧
      settled.given.font = some config.fontPath ∧
      outputPath settled.given environment = .ok config.outputPath ∧
      config.glyphHeight = settled.given.glyphHeight.getD GlyphTable.defaultHeight := by
  obtain ⟨settled, hsettle, hfinish⟩ := ok_of_bind_eq_ok hfinish
  obtain ⟨path, hpath, hfinish⟩ := ok_of_bind_eq_ok hfinish
  obtain ⟨font, hfont, rfl⟩ := Given.config_eq_ok_iff.mp hfinish
  exact ⟨settled, hsettle, hfont, hpath, rfl⟩

end Progress

/-- A configuration that a compilation and a preview can do something with.  What they
report and show of a blob is what there is of it for glyphs with rows. -/
structure Config.Usable (config : Config) : Prop where
  fontPath : config.fontPath ≠ ""
  outputPath : config.outputPath ≠ ""
  glyphHeight : 1 ≤ config.glyphHeight.toNat ∧ config.glyphHeight.toNat ≤ 255
  summary : ∀ (rows : Nat) (blob : List UInt8),
    config.toJob.summary rows blob =
      .outputWritten rows (blob.length / config.glyphHeight.toNat) config.glyphHeight.toNat
          config.outputPath ::
        if rows % config.glyphHeight.toNat = 0 then []
        else [.trailingRows (rows % config.glyphHeight.toNat)]
  count : ∀ blob : List UInt8,
    (⟨blob, config.glyphHeight⟩ : GlyphTable).glyphCount =
      blob.length / config.glyphHeight.toNat
  glyphs : ∀ (blob : List UInt8) (c : Char),
    (⟨blob, config.glyphHeight⟩ : GlyphTable).getChar? c =
      if c.toNat < blob.length / config.glyphHeight.toNat then
        some ((⟨blob, config.glyphHeight⟩ : GlyphTable).slice c.toNat)
      else none

theorem Config.usable_of_values
    {config : Config} (hfont : config.fontPath ≠ "") (houtput : config.outputPath ≠ "")
    (hheight : config.glyphHeight ≠ 0) : config.Usable := by
  have hlow : 1 ≤ config.glyphHeight.toNat := by
    have hne : config.glyphHeight.toNat ≠ 0 := fun hzero => hheight (UInt8.toNat_inj.mp hzero)
    omega
  have hcount (blob : List UInt8) :
      (⟨blob, config.glyphHeight⟩ : GlyphTable).glyphCount =
        blob.length / config.glyphHeight.toNat :=
    GlyphTable.glyphCount_of_height_ne_zero hheight
  refine ⟨hfont, houtput, ⟨hlow, Nat.le_of_lt_succ config.glyphHeight.toNat_lt⟩, ?_, hcount, ?_⟩
  · intro rows blob
    simp only [Job.summary, hcount, Nat.max_eq_left hlow]
  · intro blob c
    rw [GlyphTable.getChar?_eq, hcount]

theorem usable_of_parse
    {environment : Option String} {words : List String} {config : Config}
    (hparse : parse environment words = .ok config) : config.Usable := by
  obtain ⟨progress, hwords, hfinish⟩ := ok_of_bind_eq_ok hparse
  obtain ⟨settled, hsettle, hfont, houtput, hheight⟩ := Progress.finished hfinish
  have hnothing : ({} : Given).Sound := ⟨by simp, by simp, by simp⟩
  have hsound := (Progress.settled hsettle).sound (Progress.sound_of_words hnothing hwords)
  refine Config.usable_of_values ?_ (Progress.ne_empty_of_outputPath hsound houtput) ?_
  · intro hempty
    rw [hempty] at hfont
    exact hsound.font hfont
  · rw [hheight]
    cases hgiven : settled.given.glyphHeight with
    | none => decide
    | some height =>
        intro hzero
        rw [Option.getD_some] at hzero
        rw [hzero] at hgiven
        exact hsound.glyphHeight hgiven

end BitmapFont.CommandLine
