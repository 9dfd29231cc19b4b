import BitmapFont.Proofs.WordEffects

/-!
# Where the output path comes from

A command line is read without a look at the environment, up to the end of its words.
Only if no output option has been met by then does the environment matter, and whether one
is met can be told from the words alone: one of those before the separator is a cluster
with the letter of the option behind letters of flags.

So an option on the command line hides the environment, and a fault of the words hides it
too.  Otherwise the environment is looked at before the font path is missed, and its value
stands in for the default.
-/

namespace BitmapFont.CommandLine

/-! ## Words with an output option -/

/-- The letter of the output option stands behind letters of flags only. -/
def holdsOutput (letters : List Char) : Bool :=
  (letters.dropWhile fun letter => letter == 'v' || letter == 'h').head? == some 'o'

/-- The word is a hyphen with letters of which one is that of the output option. -/
def NamesOutput (word : String) : Prop :=
  word.toList.head? = some '-' ∧ holdsOutput word.toList.tail = true

instance : DecidablePred NamesOutput :=
  fun _ => inferInstanceAs (Decidable (_ ∧ _))

/-- A word before the separator holds an output option. -/
def OutputNamed (words : List String) : Prop :=
  ∃ word ∈ words.takeWhile (· != "--"), NamesOutput word

instance (words : List String) : Decidable (OutputNamed words) :=
  inferInstanceAs (Decidable (∃ word ∈ words.takeWhile (· != "--"), NamesOutput word))

theorem outputNamed_cons_iff {word : String} {words : List String} :
    OutputNamed (word :: words) ↔ word ≠ "--" ∧ (NamesOutput word ∨ OutputNamed words) := by
  unfold OutputNamed
  by_cases hword : word = "--"
  · subst hword
    simp
  · rw [List.takeWhile_cons_of_pos (p := (· != "--")) (bne_iff_ne.mpr hword)]
    simp [hword]

theorem namesOutput_iff {word : String} :
    NamesOutput word ↔
      ∃ letters, Word.ofChars word.toList = .cluster letters ∧ holdsOutput letters = true := by
  unfold NamesOutput Word.ofChars
  split
  case h_1 hword => simp [hword, holdsOutput]
  case h_2 rest _ hword => simp [hword, holdsOutput]
  case h_3 letter rest _ hword => simp [hword]
  case h_4 chars _ _ hplain =>
    have hnone : ¬(word.toList.head? = some '-' ∧ holdsOutput word.toList.tail = true) := by
      rintro ⟨hhead, hletters⟩
      obtain ⟨tail, htail⟩ := List.head?_eq_some_iff.mp hhead
      cases tail with
      | nil => simp [htail, holdsOutput] at hletters
      | cons letter rest => exact hplain letter rest htail
    simp [hnone]

namespace Effect

/-- The effect is about a value of the argument. -/
def Mentions (effect : Effect) (argument : ValueArgument) : Prop :=
  effect.argument? = some argument

theorem mentions_ofOutput (text : List Char) : (ofOutput text).Mentions .output := by
  unfold ofOutput
  split <;> rfl

theorem exists_mem_ofCluster_iff {letters : List Char} :
    (∃ effect ∈ ofCluster letters, effect.Mentions .output) ↔ holdsOutput letters = true := by
  induction letters with
  | nil => simp [ofCluster, holdsOutput]
  | cons letter rest ih =>
      have hflag (flag : Flag) : ¬(Effect.flag flag).Mentions .output := by
        simp [Mentions, argument?]
      unfold ofCluster
      split
      · rename_i hletter
        simpa [hletter, hflag, holdsOutput] using ih
      · rename_i hverbose
        split
        · rename_i hletter
          simpa [hletter, hflag, holdsOutput] using ih
        · rename_i hhelp
          have hstop : holdsOutput (letter :: rest) = (letter == 'o') := by
            simp [holdsOutput, hverbose, hhelp]
          rw [hstop]
          split
          · rename_i hletter
            simp [hletter, mentions_ofOutput]
          · rename_i hletter
            simp [hletter, Mentions, argument?]

theorem not_mentions_ofLong (name : List Char) (value : Option (List Char)) :
    ¬(ofLong name value).Mentions .output := by
  intro hmentions
  have hname := longArgument?_of_ofLong hmentions
  unfold longArgument? at hname
  repeat' split at hname
  all_goals cases hname

end Effect

theorem Given.has_of_raise
    {given after : Given} {flag : Flag} (argument : ValueArgument)
    (hraise : given.raise flag = .ok after) : after.has argument = given.has argument := by
  cases flag with
  | help => contradiction
  | verbose =>
      obtain rfl := Except.ok.inj hraise
      cases argument <;> rfl
  | exactWidth =>
      simp only [Given.raise] at hraise
      split at hraise
      · contradiction
      · obtain rfl := Except.ok.inj hraise
        cases argument <;> rfl

namespace Progress

variable {progress next : Progress} {word : String} {effect : Effect}

theorem not_mentions_positionalEffect (progress : Progress) (word : String) :
    ¬(progress.positionalEffect word).Mentions .output := by
  unfold positionalEffect
  split <;> simp [Effect.Mentions, Effect.argument?]

theorem not_mentions_plainEffect (progress : Progress) (word : String) :
    ¬(progress.plainEffect word).Mentions .output := by
  unfold plainEffect
  split
  · simp [Effect.Mentions, Effect.argument?]
  · exact not_mentions_positionalEffect progress word

theorem exists_mem_effects_iff :
    (∃ effect ∈ progress.effects word, effect.Mentions .output) ↔
      progress.positionalOnly = false ∧ NamesOutput word := by
  rw [namesOutput_iff]
  unfold effects
  cases progress.positionalOnly with
  | true => simp [not_mentions_positionalEffect]
  | false =>
      cases Word.ofChars word.toList with
      | separator => simp [Effect.Mentions, Effect.argument?]
      | long name value => simp [Effect.not_mentions_ofLong]
      | cluster letters => simpa using Effect.exists_mem_ofCluster_iff
      | plain => simp [not_mentions_plainEffect]

/-! ## Arguments that have been taken -/

/-- The argument has been given or is pending. -/
def Taken (progress : Progress) (argument : ValueArgument) : Prop :=
  progress.given.has argument = true ∨
    ∃ pending, progress.pending = some pending ∧ pending.argument = argument

theorem Settled.has_iff
    (hsettled : progress.Settled next) (argument : ValueArgument) :
    next.given.has argument = true ↔ progress.Taken argument := by
  cases hsettled with
  | nothing hpending => simp [Taken, hpending]
  | accepted hpending haccept => simp [Taken, hpending, Given.has_of_accept argument haccept]

theorem Performed.taken_iff
    (hperformed : progress.Performed effect next) (argument : ValueArgument) :
    next.Taken argument ↔ progress.Taken argument ∨ effect.Mentions argument := by
  cases hperformed with
  | separate => simp [Taken, Effect.Mentions, Effect.argument?]
  | begin own value hsettled =>
      rw [← hsettled.has_iff]
      simp [Taken, Effect.Mentions, Effect.argument?]
  | attach hsettled haccept =>
      rw [← hsettled.has_iff]
      simp [Taken, Effect.Mentions, Effect.argument?, hsettled.pending,
        Given.has_of_accept argument haccept]
  | flag hsettled hraise =>
      rw [← hsettled.has_iff]
      simp [Taken, Effect.Mentions, Effect.argument?, hsettled.pending,
        Given.has_of_raise argument hraise]
  | fill word => simp [Taken, Effect.Mentions, Effect.argument?]

/-- An argument is taken behind some effects if it was so before or one of them is about it. -/
theorem taken_iff_of_effects
    {effects : List Effect} (argument : ValueArgument)
    (hnext : effects.foldlM perform progress = .ok next) :
    next.Taken argument ↔
      progress.Taken argument ∨ ∃ effect ∈ effects, effect.Mentions argument := by
  induction effects generalizing progress with
  | nil =>
      obtain rfl := Except.ok.inj hnext
      simp
  | cons effect effects ih =>
      rw [List.foldlM_cons] at hnext
      obtain ⟨middle, hmiddle, hnext⟩ := ok_of_bind_eq_ok hnext
      rw [ih hnext, (performed hmiddle).taken_iff, List.exists_mem_cons_iff, or_assoc]

theorem taken_output_iff_of_word (hnext : progress.word word = .ok next) :
    next.Taken .output ↔
      progress.Taken .output ∨ (progress.positionalOnly = false ∧ NamesOutput word) := by
  rw [word_eq] at hnext
  rw [taken_iff_of_effects .output hnext, exists_mem_effects_iff]

theorem taken_output_iff_of_words
    {words : List String} (hnext : words.foldlM Progress.word progress = .ok next) :
    next.Taken .output ↔
      progress.Taken .output ∨ (progress.positionalOnly = false ∧ OutputNamed words) := by
  induction words generalizing progress with
  | nil =>
      obtain rfl := Except.ok.inj hnext
      simp [OutputNamed]
  | cons word words ih =>
      rw [List.foldlM_cons] at hnext
      obtain ⟨middle, hmiddle, hnext⟩ := ok_of_bind_eq_ok hnext
      rw [ih hnext, taken_output_iff_of_word hmiddle, positionalOnly_of_word hmiddle,
        outputNamed_cons_iff, Bool.or_eq_false_iff, beq_eq_false_iff_ne]
      have hseparator : ¬NamesOutput "--" := by decide
      by_cases hword : word = "--"
      · subst hword
        simp [hseparator]
      · simp [hword]
        tauto

end Progress

/-! ## Reading the words, then the environment -/

/-- What the words of a command line give by themselves. -/
def readWords (words : List String) : Except Stop Given := do
  let progress ← words.foldlM Progress.word {}
  let settled ← progress.settle
  pure settled.given

theorem Progress.finish_eq (progress : Progress) (environment : Option String) :
    progress.finish environment =
      progress.settle >>= fun settled =>
        outputPath settled.given environment >>= settled.given.config := rfl

theorem parse_eq (environment : Option String) (words : List String) :
    parse environment words =
      readWords words >>= fun given =>
        Progress.outputPath given environment >>= given.config := by
  unfold parse readWords
  simp only [bind_assoc, pure_bind, Progress.finish_eq]

theorem parse_of_readWords
    {words : List String} {given : Given} (environment : Option String)
    (hread : readWords words = .ok given) :
    parse environment words = Progress.outputPath given environment >>= given.config := by
  rw [parse_eq, hread]
  rfl

theorem parse_of_faulty_words
    {words : List String} {stop : Stop} (environment : Option String)
    (hread : readWords words = .error stop) : parse environment words = .error stop := by
  rw [parse_eq, hread]
  rfl

theorem output_isSome_iff
    {words : List String} {given : Given} (hread : readWords words = .ok given) :
    given.output.isSome = true ↔ OutputNamed words := by
  obtain ⟨progress, hprogress, hread⟩ := ok_of_bind_eq_ok hread
  obtain ⟨settled, hsettle, hread⟩ := ok_of_bind_eq_ok hread
  obtain rfl := Except.ok.inj hread
  have hhas : settled.given.output.isSome = true ↔ progress.Taken .output :=
    (Progress.settled hsettle).has_iff .output
  have hnothing : ¬({} : Progress).Taken .output := by simp [Progress.Taken, Given.has]
  rw [hhas, Progress.taken_output_iff_of_words hprogress]
  simp [hnothing]

theorem output_eq_none
    {words : List String} {given : Given}
    (hread : readWords words = .ok given) (hunnamed : ¬OutputNamed words) :
    given.output = none := by
  rwa [← output_isSome_iff hread, Bool.not_eq_true, Option.isSome_eq_false_iff,
    Option.isNone_iff_eq_none] at hunnamed

theorem parse_of_output
    {words : List String} {given : Given} {path : String} (environment : Option String)
    (hread : readWords words = .ok given) (houtput : given.output = some path) :
    parse environment words = given.config path := by
  rw [parse_of_readWords environment hread]
  unfold Progress.outputPath
  rw [houtput]
  rfl

theorem parse_of_environment
    {words : List String} {given : Given} {environment : Option String}
    (hread : readWords words = .ok given) (houtput : given.output = none)
    (henvironment : environment ≠ some "") :
    parse environment words = given.config (environment.getD defaultOutput) := by
  rw [parse_of_readWords environment hread]
  unfold Progress.outputPath
  rw [houtput]
  cases environment with
  | none => rfl
  | some path =>
      have hpath : path.isEmpty = false := by simpa using henvironment
      simp only [hpath]
      rfl

theorem parse_of_empty_environment
    {words : List String} {given : Given}
    (hread : readWords words = .ok given) (houtput : given.output = none) :
    parse (some "") words = .error (.usage (.missingValue .output)) := by
  rw [parse_of_readWords (some "") hread]
  unfold Progress.outputPath
  rw [houtput]
  rfl

/-! ## Precedence -/

/-- Which of the command line, the environment and the default decides about the output
path, and in which order what is wrong with them is found. -/
structure OutputPrecedence (words : List String) : Prop where
  /-- A fault of the words is reported whatever the environment holds. -/
  faulty : ∀ stop, readWords words = .error stop →
    ∀ environment, parse environment words = .error stop
  /-- An option hides the environment altogether. -/
  named : OutputNamed words →
    ∀ environment other, parse environment words = parse other words
  path : OutputNamed words → ∀ given, readWords words = .ok given →
    ∃ path, given.output = some path ∧
      ∀ environment config, parse environment words = .ok config → config.outputPath = path
  /-- An empty value is refused before the font path is missed. -/
  empty : ¬OutputNamed words → ∀ given, readWords words = .ok given →
    parse (some "") words = .error (.usage (.missingValue .output))
  missing : ¬OutputNamed words → ∀ given, readWords words = .ok given → given.font = none →
    ∀ environment, environment ≠ some "" →
      parse environment words = .error (.usage .missingFont)
  config : ¬OutputNamed words → ∀ given, readWords words = .ok given →
    ∀ font, given.font = some font →
      ∃ config : Config, config.fontPath = font ∧
        ∀ environment, environment ≠ some "" →
          parse environment words =
            .ok { config with outputPath := environment.getD defaultOutput }

/-- The output path is the one that an option on the command line gives, or else the
environment's, or else the default; and nothing that is found wrong with a command line
depends on an environment that is not asked for the path. -/
theorem parse_output_precedence (words : List String) : OutputPrecedence words where
  faulty stop hread environment := parse_of_faulty_words environment hread
  named hnamed environment other := by
    cases hread : readWords words with
    | error stop =>
        rw [parse_of_faulty_words environment hread, parse_of_faulty_words other hread]
    | ok given =>
        obtain ⟨path, houtput⟩ := Option.isSome_iff_exists.mp ((output_isSome_iff hread).mpr hnamed)
        rw [parse_of_output environment hread houtput, parse_of_output other hread houtput]
  path hnamed given hread := by
    obtain ⟨path, houtput⟩ := Option.isSome_iff_exists.mp ((output_isSome_iff hread).mpr hnamed)
    refine ⟨path, houtput, fun environment config hparse => ?_⟩
    rw [parse_of_output environment hread houtput] at hparse
    obtain ⟨fontPath, -, rfl⟩ := Given.config_eq_ok_iff.mp hparse
    rfl
  empty hunnamed given hread :=
    parse_of_empty_environment hread (output_eq_none hread hunnamed)
  missing hunnamed given hread hfont environment henvironment := by
    rw [parse_of_environment hread (output_eq_none hread hunnamed) henvironment]
    simp only [Given.config, hfont]
  config hunnamed given hread font hfont := by
    refine ⟨given.toConfig font defaultOutput, rfl, fun environment henvironment => ?_⟩
    rw [parse_of_environment hread (output_eq_none hread hunnamed) henvironment]
    exact Given.config_eq_ok_iff.mpr ⟨font, hfont, rfl⟩

/-- An option in a cluster, no words at all, and a font path that looks like an option. -/
theorem parse_output_precedence_around_separator :
    (∃ path, ∀ environment config,
      parse environment ["-vo", "x", "a"] = .ok config → config.outputPath = path) ∧
    parse (some "e") ["-vo", "x", "a"] = parse (some "") ["-vo", "x", "a"] ∧
    parse (some "") [] = .error (.usage (.missingValue .output)) ∧
    parse (some "e") [] = .error (.usage .missingFont) ∧
    ∃ config : Config, config.fontPath = "-o" ∧
      parse none ["--", "-o"] = .ok { config with outputPath := "font.out" } ∧
      parse (some "e") ["--", "-o"] = .ok { config with outputPath := "e" } := by
  have hnamed : OutputNamed ["-vo", "x", "a"] := by decide
  have hnothing : readWords [] = .ok {} := rfl
  have hfont : readWords ["--", "-o"] = .ok { font := some "-o" } := rfl
  have hcluster : readWords ["-vo", "x", "a"] =
      .ok { font := some "a", output := some "x", verbosity := 1 } := rfl
  obtain ⟨path, -, hpath⟩ := (parse_output_precedence ["-vo", "x", "a"]).path hnamed _ hcluster
  obtain ⟨config, hconfig, hparse⟩ :=
    (parse_output_precedence ["--", "-o"]).config (by decide) _ hfont "-o" rfl
  exact ⟨⟨path, hpath⟩, (parse_output_precedence ["-vo", "x", "a"]).named hnamed _ _,
    (parse_output_precedence []).empty (by decide) _ hnothing,
    (parse_output_precedence []).missing (by decide) _ hnothing rfl _ (by decide),
    config, hconfig, hparse none (by decide), hparse (some "e") (by decide)⟩

end BitmapFont.CommandLine
