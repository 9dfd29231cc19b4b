import BitmapFont.Proofs.UsableConfig

/-!
# Accepted heights

The height itself does not matter to how the rest of a command line is read, once it is
settled whether there is one: two readings that differ in nothing but the height go the
same way word by word.  So the height on a command line can be exchanged for any other
text that spells a number in the range, and for no other text, and a command line that
names no height is read with the default one.
-/

namespace BitmapFont.CommandLine

/-- An argument about which two heights make no difference: it is not the height, or it
repeats a height that is there either way. -/
def Alike (height other : Option UInt8) (argument : ValueArgument) : Prop :=
  argument = .glyphHeight → height.isSome ∧ other.isSome

theorem Alike.self
    {height other : Option UInt8} {argument : ValueArgument}
    (halike : Alike height other argument) : Alike height height argument :=
  fun hargument => ⟨(halike hargument).1, (halike hargument).1⟩

/-! ## Another height -/

def Given.withHeight (given : Given) (height : Option UInt8) : Given :=
  { given with glyphHeight := height }

def Progress.withHeight (progress : Progress) (height : Option UInt8) : Progress :=
  { progress with given := progress.given.withHeight height }

def Config.withHeight (config : Config) (height : Option UInt8) : Config :=
  { config with glyphHeight := height.getD GlyphTable.defaultHeight }

namespace Given

variable {given : Given} {height : Option UInt8}

theorem has_withHeight
    {argument : ValueArgument} (halike : Alike given.glyphHeight height argument) :
    (given.withHeight height).has argument = given.has argument := by
  cases argument with
  | font => rfl
  | output => rfl
  | preview => rfl
  | glyphHeight =>
      obtain ⟨hgiven, hheight⟩ := halike rfl
      exact hheight.trans hgiven.symm

theorem set_withHeight
    {argument : ValueArgument} (value : String) (hargument : argument ≠ .glyphHeight) :
    (given.withHeight height).set argument value =
      (given.set argument value).map (·.withHeight height) := by
  cases argument with
  | font => by_cases hempty : value.isEmpty <;> simp [set, withHeight, hempty, Except.map]
  | output => by_cases hempty : value.isEmpty <;> simp [set, withHeight, hempty, Except.map]
  | preview => rfl
  | glyphHeight => contradiction

theorem accept_withHeight
    {argument : ValueArgument} (value : Option String)
    (halike : Alike given.glyphHeight height argument) :
    (given.withHeight height).accept argument value =
      (given.accept argument value).map (·.withHeight height) := by
  cases value with
  | none => rfl
  | some value =>
      simp only [accept]
      rw [has_withHeight halike]
      by_cases hhas : given.has argument = true
      · rw [if_pos hhas, if_pos hhas]
        rfl
      · have hargument : argument ≠ .glyphHeight := by
          rintro rfl
          exact hhas (halike rfl).1
        rw [if_neg hhas, if_neg hhas, set_withHeight value hargument]
        cases given.set argument value <;> rfl

theorem raise_withHeight (given : Given) (height : Option UInt8) (flag : Flag) :
    (given.withHeight height).raise flag = (given.raise flag).map (·.withHeight height) := by
  cases flag with
  | help => rfl
  | verbose => rfl
  | exactWidth =>
      by_cases hexact : given.exactWidth <;> simp [raise, withHeight, hexact, Except.map]

theorem accept_glyphHeight_eq_ok_iff {text : String} {after : Given} :
    given.accept .glyphHeight (some text) = .ok after ↔
      given.glyphHeight = none ∧
        ∃ height, readHeight text.toList = .ok height ∧ after = given.withHeight (some height) := by
  cases hgiven : given.glyphHeight with
  | some height => simp [accept, has, hgiven]
  | none =>
      cases hread : readHeight text.toList with
      | error fault => simp [accept, has, set, hgiven, hread, Except.mapError]
      | ok height => simp [accept, has, set, hgiven, hread, Except.mapError, withHeight, eq_comm]

end Given

namespace Progress

variable {progress next : Progress} {height : Option UInt8} {effect : Effect}

/-- What is pending comes to the same under another height. -/
def Indifferent (progress : Progress) (height : Option UInt8) : Prop :=
  ∀ pending, progress.pending = some pending →
    Alike progress.given.glyphHeight height pending.argument

theorem Indifferent.self
    (hprogress : progress.Indifferent height) :
    progress.Indifferent progress.given.glyphHeight :=
  fun pending hpending => (hprogress pending hpending).self

theorem indifferent_of_pending
    (height : Option UInt8) (hpending : progress.pending = none) : progress.Indifferent height := by
  intro pending hsome
  rw [hpending] at hsome
  contradiction

/-- A result that its own height does not change has this height. -/
theorem glyphHeight_of_map
    {result : Except Stop Progress}
    (hmap : result = result.map (·.withHeight height)) (hnext : result = .ok next) :
    next.given.glyphHeight = height := by
  rw [hnext] at hmap
  exact congrArg (·.given.glyphHeight) (Except.ok.inj hmap)

/-! ## Effects under another height -/

theorem settle_withHeight (hprogress : progress.Indifferent height) :
    (progress.withHeight height).settle = progress.settle.map (·.withHeight height) := by
  obtain ⟨given, pending, positionalOnly⟩ := progress
  rcases pending with _ | ⟨argument, value⟩
  · rfl
  · have haccept := Given.accept_withHeight value (hprogress _ rfl)
    simp only [settle, withHeight]
    rw [haccept]
    cases given.accept argument value <;> rfl

theorem glyphHeight_of_settle
    (hprogress : progress.Indifferent height) (hsettle : progress.settle = .ok next) :
    next.given.glyphHeight = progress.given.glyphHeight :=
  glyphHeight_of_map (settle_withHeight hprogress.self) hsettle

theorem perform_withHeight
    (hprogress : progress.Indifferent height)
    (heffect : ∀ argument, effect.argument? = some argument →
      Alike progress.given.glyphHeight height argument) :
    (progress.withHeight height).perform effect =
      (progress.perform effect).map (·.withHeight height) := by
  cases effect with
  | refuse error => rfl
  | separate => rfl
  | begin argument value =>
      simp only [perform, begin]
      rw [settle_withHeight hprogress]
      cases progress.settle <;> rfl
  | attach argument value =>
      simp only [perform, attach]
      rw [settle_withHeight hprogress]
      refine bind_map fun settled hsettle => ?_
      have halike := heffect argument rfl
      rw [← glyphHeight_of_settle hprogress hsettle] at halike
      have haccept := Given.accept_withHeight (some (String.ofList value)) halike
      simp only [withHeight]
      rw [haccept]
      exact bind_map fun given hgiven => rfl
  | flag flag =>
      simp only [perform, Progress.flag]
      rw [settle_withHeight hprogress]
      refine bind_map fun settled hsettle => ?_
      simp only [withHeight]
      rw [Given.raise_withHeight]
      exact bind_map fun given hgiven => rfl
  | fill word => rfl

/-- An effect leaves the height as it is, and what is pending behind it is as alike under
another height as its own argument and what was pending before. -/
theorem indifferent_of_perform
    (hprogress : progress.Indifferent height)
    (heffect : ∀ argument, effect.argument? = some argument →
      Alike progress.given.glyphHeight height argument)
    (hnext : progress.perform effect = .ok next) :
    next.given.glyphHeight = progress.given.glyphHeight ∧ next.Indifferent height := by
  have hself := perform_withHeight hprogress.self fun argument hargument =>
    (heffect argument hargument).self
  have hheight := glyphHeight_of_map hself hnext
  refine ⟨hheight, ?_⟩
  intro pending hpending
  rw [hheight]
  rcases (performed hnext).argument_of_pending hpending with
    ⟨earlier, hearlier, hargument⟩ | hargument
  · rw [← hargument]
    exact hprogress earlier hearlier
  · exact heffect _ hargument

/-! ## Words under another height -/

section Words

/-- What holds in the middle of a word that two heights make no difference about. -/
structure Underway
    (progress : Progress) (height : Option UInt8) (effects : List Effect) (state : Progress) :
    Prop where
  glyphHeight : state.given.glyphHeight = progress.given.glyphHeight
  indifferent : state.Indifferent height
  effects : ∀ effect ∈ effects, ∀ argument, effect.argument? = some argument →
    Alike state.given.glyphHeight height argument

theorem Underway.perform
    {effects : List Effect} {state after : Progress}
    (hstate : progress.Underway height (effect :: effects) state)
    (hafter : state.perform effect = .ok after) : progress.Underway height effects after := by
  obtain ⟨hheight, hindifferent⟩ := indifferent_of_perform hstate.indifferent
    (hstate.effects effect List.mem_cons_self) hafter
  refine ⟨hheight.trans hstate.glyphHeight, hindifferent, ?_⟩
  intro other hother argument hargument
  rw [hheight]
  exact hstate.effects other (List.mem_cons_of_mem effect hother) argument hargument

theorem underway_of_word
    {word : String}
    (hprogress : progress.Indifferent height)
    (hword : progress.positionalOnly = false → NamesHeight word →
      Alike progress.given.glyphHeight height .glyphHeight) :
    progress.Underway height (progress.effects word) progress where
  glyphHeight := rfl
  indifferent := hprogress
  effects effect heffect argument hargument := by
    by_cases hheight : argument = .glyphHeight
    · subst hheight
      obtain ⟨hopen, hnames⟩ := namesHeight_of_mem_effects heffect hargument
      exact hword hopen hnames
    · exact fun heq => absurd heq hheight

/-- Two heights make no difference to how the words are read. -/
structure Reads (height : Option UInt8) (words : List String) (progress : Progress) : Prop where
  indifferent : progress.Indifferent height
  words : progress.positionalOnly = false →
    ∀ word ∈ words.takeWhile (· != "--"), NamesHeight word →
      Alike progress.given.glyphHeight height .glyphHeight

variable {words : List String}

theorem Reads.underway
    {word : String} (hreads : progress.Reads height (word :: words)) :
    progress.Underway height (progress.effects word) progress := by
  refine underway_of_word hreads.indifferent fun hopen hnames => ?_
  refine hreads.words hopen word ?_ hnames
  have hword : (word != "--") = true := bne_iff_ne.mpr hnames.ne_separator
  rw [List.takeWhile_cons_of_pos (p := (· != "--")) hword]
  exact List.mem_cons_self

theorem word_withHeight
    {word : String} (hreads : progress.Reads height (word :: words)) :
    (progress.withHeight height).word word =
      (progress.word word).map (·.withHeight height) := by
  rw [word_eq, word_eq]
  exact foldlM_map (progress.Underway height)
    (fun effect rest state after hstate hafter => hstate.perform hafter)
    (fun effect rest state hstate =>
      perform_withHeight hstate.indifferent (hstate.effects effect List.mem_cons_self))
    hreads.underway

theorem Reads.word
    {word : String}
    (hreads : progress.Reads height (word :: words)) (hnext : progress.word word = .ok next) :
    next.Reads height words := by
  have hopen := positionalOnly_of_word hnext
  rw [word_eq] at hnext
  have hlast := foldlM_preserves (progress.Underway height)
    (fun effect rest state after hstate hafter => hstate.perform hafter) hreads.underway hnext
  refine ⟨hlast.indifferent, ?_⟩
  -- No separator has been read yet, so the words before it are those from this word on.
  intro hstillOpen other hother
  rw [hopen, Bool.or_eq_false_iff, beq_eq_false_iff_ne] at hstillOpen
  have hword : (word != "--") = true := bne_iff_ne.mpr hstillOpen.2
  rw [hlast.glyphHeight]
  refine hreads.words hstillOpen.1 other ?_
  rw [List.takeWhile_cons_of_pos (p := (· != "--")) hword]
  exact List.mem_cons_of_mem word hother

theorem Settled.finish
    {environment : Option String}
    (hsettled : progress.Settled next) (hsettle : progress.settle = .ok next) :
    next.finish environment = progress.finish environment := by
  have hagain : next.settle = .ok next := by
    unfold settle
    rw [hsettled.pending]
  unfold Progress.finish
  rw [hsettle, hagain]

theorem finish_withHeight
    (environment : Option String) (hprogress : progress.Indifferent height) :
    (progress.withHeight height).finish environment =
      (progress.finish environment).map (·.withHeight height) := by
  unfold finish
  rw [settle_withHeight hprogress]
  refine bind_map fun settled hsettle => ?_
  have hpath :
      outputPath (settled.given.withHeight height) environment =
        outputPath settled.given environment := rfl
  simp only [withHeight]
  rw [hpath]
  cases outputPath settled.given environment with
  | error stop => rfl
  | ok path =>
      obtain ⟨⟨font, _, _, _, _, _⟩, _, _⟩ := settled
      cases font <;> rfl

/-- The configuration that the words come to from here. -/
def read (progress : Progress) (environment : Option String) (words : List String) :
    Except Stop Config := do
  let last ← words.foldlM Progress.word progress
  last.finish environment

theorem read_cons
    (progress : Progress) (environment : Option String) (word : String) (words : List String) :
    progress.read environment (word :: words) =
      progress.word word >>= fun next => next.read environment words := by
  unfold read
  rw [List.foldlM_cons]
  exact bind_assoc _ _ _

theorem read_append
    (progress : Progress) (environment : Option String) (before after : List String) :
    progress.read environment (before ++ after) =
      before.foldlM Progress.word progress >>= fun next => next.read environment after := by
  unfold read
  rw [List.foldlM_append]
  exact bind_assoc _ _ _

theorem words_withHeight (hreads : progress.Reads height words) :
    words.foldlM Progress.word (progress.withHeight height) =
      (words.foldlM Progress.word progress).map (·.withHeight height) :=
  foldlM_map (Reads height)
    (fun _ _ _ _ hstate hafter => hstate.word hafter)
    (fun _ _ _ hstate => word_withHeight hstate) hreads

theorem indifferent_of_words
    (hreads : progress.Reads height words)
    (hnext : words.foldlM Progress.word progress = .ok next) : next.Indifferent height :=
  (foldlM_preserves (Reads height)
    (fun _ _ _ _ hstate hafter => hstate.word hafter) hreads hnext).indifferent

theorem read_withHeight
    (environment : Option String) (hreads : progress.Reads height words) :
    (progress.withHeight height).read environment words =
      (progress.read environment words).map (·.withHeight height) := by
  unfold read
  rw [words_withHeight hreads]
  exact bind_map fun last hlast =>
    finish_withHeight environment (indifferent_of_words hreads hlast)

end Words

/-! ## The word that gives the height -/

section HeightWord

theorem word_heightWord
    (text : String) (hopen : progress.positionalOnly = false) :
    progress.word (heightWord text) = progress.attach .glyphHeight text.toList :=
  word_of_equals "glyph-height" hopen (by decide) rfl

theorem attach_glyphHeight_eq_ok_iff
    {settled : Progress} {text : String} (hsettle : progress.settle = .ok settled) :
    progress.attach .glyphHeight text.toList = .ok next ↔
      settled.given.glyphHeight = none ∧
        ∃ height, readHeight text.toList = .ok height ∧
          next = settled.withHeight (some height) := by
  rw [attach, bind_of_eq_ok _ hsettle, String.ofList_toList]
  constructor
  · intro hnext
    obtain ⟨given, haccept, hnext⟩ := ok_of_bind_eq_ok hnext
    obtain ⟨hnone, height, hread, rfl⟩ := Given.accept_glyphHeight_eq_ok_iff.mp haccept
    exact ⟨hnone, height, hread, (Except.ok.inj hnext).symm⟩
  · rintro ⟨hnone, height, hread, rfl⟩
    have haccept := Given.accept_glyphHeight_eq_ok_iff.mpr ⟨hnone, height, hread, rfl⟩
    exact bind_of_eq_ok _ haccept

theorem positionalOnly_of_words
    {words : List String}
    (hopen : progress.positionalOnly = false) (hwords : "--" ∉ words)
    (hnext : words.foldlM Progress.word progress = .ok next) :
    next.positionalOnly = false := by
  refine (foldlM_preserves
    (fun rest state => "--" ∉ rest ∧ state.positionalOnly = false) ?_ ⟨hwords, hopen⟩ hnext).2
  rintro word rest state after ⟨hrest, hstate⟩ hafter
  rw [List.mem_cons, not_or] at hrest
  refine ⟨hrest.2, ?_⟩
  rw [positionalOnly_of_word hafter, hstate, Bool.false_or, beq_eq_false_iff_ne]
  exact Ne.symm hrest.1

end HeightWord

end Progress

/-! ## Whole command lines -/

/-- Put in its place on the command line, a text is accepted as the height exactly when
it spells a number in the range, and then the height is this number. -/
def TakesHeights
    (environment : Option String) (line : String → List String) (config : Config) : Prop :=
  ∀ (text : String) (accepted : Config),
    parse environment (line (heightWord text)) = .ok accepted ↔
      ∃ number, Numeral text.toList number ∧ 1 ≤ number ∧ number ≤ 255 ∧
        accepted = { config with glyphHeight := UInt8.ofNat number }

/-- No word before a separator names the height. -/
def HeightUnnamed (words : List String) : Prop :=
  ∀ word ∈ words.takeWhile (· != "--"), ¬NamesHeight word

section Lines

variable {environment : Option String} {words before after : List String} {config : Config}

theorem parse_append (environment : Option String) (before after : List String) :
    parse environment (before ++ after) =
      before.foldlM Progress.word {} >>= fun next => next.read environment after :=
  Progress.read_append {} environment before after

/-- Where a height may be given, any in the range is as good as another if the words
behind it are read with any. -/
theorem takesHeights_of_read
    {progress settled : Progress}
    (hbefore : before.foldlM Progress.word {} = .ok progress)
    (hopen : progress.positionalOnly = false)
    (hsettle : progress.settle = .ok settled) (hnone : settled.given.glyphHeight = none)
    (hread : ∀ height, (settled.withHeight (some height)).read environment after =
      .ok (config.withHeight (some height))) :
    TakesHeights environment (before ++ · :: after) config := by
  intro text accepted
  rw [parse_append, bind_of_eq_ok _ hbefore, Progress.read_cons,
    Progress.word_heightWord text hopen]
  constructor
  · intro haccepted
    obtain ⟨next, hattach, haccepted⟩ := ok_of_bind_eq_ok haccepted
    obtain ⟨-, height, hheight, rfl⟩ :=
      (Progress.attach_glyphHeight_eq_ok_iff hsettle).mp hattach
    rw [hread height] at haccepted
    obtain rfl := Except.ok.inj haccepted
    obtain ⟨number, hnumeral, hlow, hhigh, rfl⟩ := readHeight_eq_ok_iff.mp hheight
    exact ⟨number, hnumeral, hlow, hhigh, rfl⟩
  · rintro ⟨number, hnumeral, hlow, hhigh, rfl⟩
    have hheight := readHeight_eq_ok_iff.mpr ⟨number, hnumeral, hlow, hhigh, rfl⟩
    have hattach :=
      (Progress.attach_glyphHeight_eq_ok_iff hsettle).mpr ⟨hnone, _, hheight, rfl⟩
    rw [bind_of_eq_ok _ hattach, hread]
    rfl

/-- A height that a command line gives can be exchanged. -/
theorem takesHeights_exchanged
    {text : String} (hbefore : "--" ∉ before)
    (hparse : parse environment (before ++ heightWord text :: after) = .ok config) :
    TakesHeights environment (before ++ · :: after) config := by
  rw [parse_append] at hparse
  obtain ⟨progress, hprogress, hparse⟩ := ok_of_bind_eq_ok hparse
  have hopen := Progress.positionalOnly_of_words rfl hbefore hprogress
  rw [Progress.read_cons, Progress.word_heightWord text hopen] at hparse
  obtain ⟨next, hattach, hparse⟩ := ok_of_bind_eq_ok hparse
  obtain ⟨settled, hsettle, -⟩ := ok_of_bind_eq_ok hattach
  obtain ⟨hnone, given, -, rfl⟩ := (Progress.attach_glyphHeight_eq_ok_iff hsettle).mp hattach
  refine takesHeights_of_read hprogress hopen hsettle hnone fun height => ?_
  -- A height is there already, so another one makes no difference to the words behind it.
  have hreads : (settled.withHeight (some given)).Reads (some height) after :=
    ⟨Progress.indifferent_of_pending _ (Progress.settled hsettle).pending,
      fun _ _ _ _ _ => ⟨rfl, rfl⟩⟩
  have hread := Progress.read_withHeight environment hreads
  rw [hparse] at hread
  exact hread

section Unnamed

theorem HeightUnnamed.reads
    (hunnamed : HeightUnnamed words) (height : Option UInt8) :
    ({} : Progress).Reads height words where
  indifferent := Progress.indifferent_of_pending height rfl
  words _ word hword hnames := absurd hnames (hunnamed word hword)

theorem HeightUnnamed.glyphHeight
    (hunnamed : HeightUnnamed words) (hparse : parse environment words = .ok config) :
    config.glyphHeight = GlyphTable.defaultHeight := by
  have hread := Progress.read_withHeight environment (hunnamed.reads none)
  change parse environment words = (parse environment words).map _ at hread
  rw [hparse] at hread
  exact congrArg (·.glyphHeight) (Except.ok.inj hread)

theorem HeightUnnamed.takesHeights_first
    (hunnamed : HeightUnnamed words) (hparse : parse environment words = .ok config) :
    TakesHeights environment (· :: words) config := by
  have hnothing : ([] : List String).foldlM Progress.word {} = .ok {} := rfl
  refine takesHeights_of_read hnothing rfl rfl rfl fun height => ?_
  have hread := Progress.read_withHeight environment (hunnamed.reads (some height))
  change _ = (parse environment words).map _ at hread
  rw [hparse] at hread
  exact hread

theorem HeightUnnamed.takesHeights_last
    (hunnamed : HeightUnnamed words) (hseparated : "--" ∉ words)
    (hparse : parse environment words = .ok config) :
    TakesHeights environment (words ++ [·]) config := by
  obtain ⟨progress, hprogress, hfinish⟩ := ok_of_bind_eq_ok hparse
  obtain ⟨settled, hsettle, -⟩ := Progress.finished hfinish
  have hopen := Progress.positionalOnly_of_words rfl hseparated hprogress
  have hreads := hunnamed.reads none
  have hnone : progress.given.glyphHeight = none :=
    Progress.glyphHeight_of_map (Progress.words_withHeight hreads) hprogress
  have hkept := Progress.glyphHeight_of_settle
    (Progress.indifferent_of_words hreads hprogress) hsettle
  refine takesHeights_of_read hprogress hopen hsettle (hkept.trans hnone) fun height => ?_
  have hsettled := Progress.settled hsettle
  have hlast : settled.Reads (some height) [] :=
    ⟨Progress.indifferent_of_pending _ hsettled.pending, fun _ _ hword => by contradiction⟩
  have hread := Progress.read_withHeight environment hlast
  change _ = (settled.finish environment).map _ at hread
  rw [hsettled.finish hsettle, hfinish] at hread
  exact hread

end Unnamed

/-! ## A font path alone -/

theorem heightUnnamed_of_standsAlone
    {font : String} (halone : StandsAlone font) : HeightUnnamed [font] := by
  intro word hword hnames
  obtain rfl := List.mem_singleton.mp ((List.takeWhile_sublist _).mem hword)
  rcases halone with hhead | rfl
  · rcases hnames with rfl | ⟨text, rfl⟩
    · exact hhead rfl
    · exact hhead (congrArg List.head? String.toList_append)
  · rcases hnames with hshort | ⟨text, hshort⟩
    · exact absurd hshort (by decide)
    · have hlength : 1 = 15 + text.length :=
        (congrArg String.length hshort).trans (length_heightWord text)
      omega

theorem parse_font
    {font : String}
    (hfont : font ≠ "") (halone : StandsAlone font) (henvironment : environment ≠ some "") :
    parse environment [font] =
      .ok { fontPath := font, outputPath := environment.getD defaultOutput, policy := .lenient
            glyphHeight := GlyphTable.defaultHeight, preview := none, verbosity := 0 } := by
  have hreadable : (Group.font font).Readable := ⟨hfont, halone⟩
  obtain ⟨progress, hread, hholds⟩ := (Progress.Holds.settled {} false).group hreadable rfl
  have hpath : Progress.outputPath (({} : Given).add (.font font)) environment =
      .ok (environment.getD defaultOutput) := by
    cases environment with
    | none => rfl
    | some path =>
        have hpath : path.isEmpty = false := by simpa using henvironment
        simp [Progress.outputPath, Given.add, hpath]
  have hwords : [font].foldlM Progress.word {} = .ok progress := hread
  unfold parse
  rw [bind_of_eq_ok _ hwords]
  unfold Progress.finish
  rw [bind_of_eq_ok _ hholds.settle, bind_of_eq_ok _ hpath]
  rfl

end Lines

/-- What there is to know about the command lines that are accepted, whatever output
path the environment holds. -/
structure AcceptedLines (environment : Option String) : Prop where
  /-- There are such command lines, and the shortest are font paths. -/
  font : ∀ font : String, font ≠ "" → StandsAlone font → environment ≠ some "" →
    HeightUnnamed [font] ∧ ∃ config, parse environment [font] = .ok config
  usable : ∀ (words : List String) (config : Config),
    parse environment words = .ok config → config.Usable
  unnamed : ∀ (words : List String) (config : Config), HeightUnnamed words →
    parse environment words = .ok config → config.glyphHeight = GlyphTable.defaultHeight
  exchanged : ∀ (before after : List String) (text : String) (config : Config),
    "--" ∉ before → parse environment (before ++ heightWord text :: after) = .ok config →
    TakesHeights environment (before ++ · :: after) config
  first : ∀ (words : List String) (config : Config), HeightUnnamed words →
    parse environment words = .ok config → TakesHeights environment (· :: words) config
  last : ∀ (words : List String) (config : Config), HeightUnnamed words → "--" ∉ words →
    parse environment words = .ok config → TakesHeights environment (words ++ [·]) config

/-- Whatever the words of a command line are, a configuration that comes out of them is
usable, and its height is the default one unless a word names the height.  A text is
accepted for the height by the number that it spells: in place of one that has been
accepted, or before or behind words that are accepted without. -/
theorem parse_usable (environment : Option String) : AcceptedLines environment where
  font _ hfont halone henvironment :=
    ⟨heightUnnamed_of_standsAlone halone, _, parse_font hfont halone henvironment⟩
  usable _ _ hparse := usable_of_parse hparse
  unnamed _ _ hunnamed hparse := hunnamed.glyphHeight hparse
  exchanged _ _ _ _ hbefore hparse := takesHeights_exchanged hbefore hparse
  first _ _ hunnamed hparse := hunnamed.takesHeights_first hparse
  last _ _ hunnamed hseparated hparse := hunnamed.takesHeights_last hseparated hparse

/-- Heights of three spellings on one command line, of which one is out of range. -/
theorem parse_usable_padded_height :
    let config : Config :=
      { fontPath := "a", outputPath := "font.out", policy := .lenient, glyphHeight := 16
        preview := none, verbosity := 0 }
    parse none ["a"] = .ok config ∧ config.Usable ∧
      parse none ["--glyph-height=+0255", "a"] = .ok { config with glyphHeight := 255 } ∧
      parse none ["a", "--glyph-height=8"] = .ok { config with glyphHeight := 8 } ∧
      ∀ accepted, parse none ["a", "--glyph-height=256"] ≠ .ok accepted := by
  intro config
  have hparse : parse none ["a"] = .ok config := rfl
  have hlines := parse_usable none
  obtain ⟨hunnamed, -⟩ := hlines.font "a" (by decide) (by decide) (by decide)
  have hwide : parse none ["--glyph-height=+0255", "a"] = .ok { config with glyphHeight := 255 } :=
    (hlines.first ["a"] config hunnamed hparse "+0255" _).mpr
      ⟨255, ⟨['0', '2', '5', '5'], .inr rfl, by simp, by simp, rfl⟩, by decide, by decide, rfl⟩
  have hsmall : parse none ["a", "--glyph-height=8"] = .ok { config with glyphHeight := 8 } :=
    (hlines.last ["a"] config hunnamed (by decide) hparse "8" _).mpr
      ⟨8, ⟨['8'], .inl rfl, by simp, by simp, rfl⟩, by decide, by decide, rfl⟩
  refine ⟨hparse, hlines.usable ["a"] config hparse, hwide, hsmall, ?_⟩
  intro accepted hbeyond
  obtain ⟨number, ⟨digits, hdigits, -, -, rfl⟩, -, hhigh, -⟩ :=
    (hlines.exchanged ["a"] [] "8" _ (by decide) hsmall "256" accepted).mp hbeyond
  rcases hdigits with rfl | hsigned
  · exact absurd hhigh (by decide)
  · have hdigit := (List.cons.inj hsigned).1
    exact absurd hdigit (by decide)

end BitmapFont.CommandLine
