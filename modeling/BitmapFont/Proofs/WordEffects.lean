import BitmapFont.Proofs.ArgumentGroups

/-!
# Effects of words

What a word does to the progress is one of a few effects, or several of them in a row
where the word is a cluster of letters.  Which effects these are depends only on the
word, on whether the font path has been given, and on whether an argument waits for its
value; so a fact about reading words is one about each effect.
-/

namespace BitmapFont.CommandLine

inductive Effect where
  | refuse (error : UsageError)
  | separate
  | begin (argument : ValueArgument) (value : Option String)
  | attach (argument : ValueArgument) (value : List Char)
  | flag (flag : Flag)
  /-- The word is the value that an argument waits for. -/
  | fill (word : String)
  deriving Repr, DecidableEq

namespace Effect

def argument? : Effect → Option ValueArgument
  | begin argument _ | attach argument _ => some argument
  | _ => none

def ofLong (name : List Char) (value : Option (List Char)) : Effect :=
  match longArgument? name, value with
  | none, _ => .refuse (.unknown ("--" ++ String.ofList name))
  | some (.inl argument), none => .begin argument none
  | some (.inl argument), some value => .attach argument value
  | some (.inr raised), none => .flag raised
  | some (.inr raised), some value => .refuse (.unneededValue raised (String.ofList value))

def ofOutput : List Char → Effect
  | [] => .begin .output none
  | '=' :: value => .attach .output value
  | value => .attach .output value

def ofCluster : List Char → List Effect
  | [] => []
  | letter :: rest =>
      if letter = 'v' then .flag .verbose :: ofCluster rest
      else if letter = 'h' then .flag .help :: ofCluster rest
      else if letter = 'o' then [ofOutput rest]
      else [.refuse (.unknown (String.ofList ['-', letter]))]

end Effect

namespace Progress

def perform (progress : Progress) : Effect → Except Stop Progress
  | .refuse error => .error (.usage error)
  | .separate => .ok { progress with positionalOnly := true }
  | .begin argument value => progress.begin argument value
  | .attach argument value => progress.attach argument value
  | .flag flag => progress.flag flag
  | .fill word =>
      .ok { progress with pending := progress.pending.map ({ · with value := some word }) }

def positionalEffect (progress : Progress) (word : String) : Effect :=
  if progress.fontTaken then .refuse (.unknown word) else .begin .font (some word)

def plainEffect (progress : Progress) (word : String) : Effect :=
  match progress.pending with
  | some ⟨_, none⟩ => .fill word
  | _ => progress.positionalEffect word

def effects (progress : Progress) (word : String) : List Effect :=
  if progress.positionalOnly then
    [progress.positionalEffect word]
  else
    match Word.ofChars word.toList with
    | .separator => [.separate]
    | .long name value => [.ofLong name value]
    | .cluster letters => Effect.ofCluster letters
    | .plain => [progress.plainEffect word]

variable {progress next : Progress} {word : String} {effect : Effect}

/-! ## A word has its effects -/

theorem foldlM_perform_singleton (progress : Progress) (effect : Effect) :
    [effect].foldlM perform progress = progress.perform effect := by
  rw [List.foldlM_cons]
  cases progress.perform effect <;> rfl

theorem long_eq (progress : Progress) (name : List Char) (value : Option (List Char)) :
    progress.long name value = progress.perform (.ofLong name value) := by
  unfold long Effect.ofLong
  rcases longArgument? name with _ | argument | raised <;> cases value <;> rfl

theorem output_eq (progress : Progress) (rest : List Char) :
    (match rest with
      | [] => progress.begin .output none
      | '=' :: value => progress.attach .output value
      | value => progress.attach .output value) =
      progress.perform (.ofOutput rest) := by
  cases rest with
  | nil => rfl
  | cons c rest =>
      by_cases hc : c = '='
      · subst hc
        rfl
      · simp [Effect.ofOutput, hc, perform]

theorem cluster_eq (progress : Progress) (letters : List Char) :
    progress.cluster letters = (Effect.ofCluster letters).foldlM perform progress := by
  induction letters generalizing progress with
  | nil => rfl
  | cons letter rest ih =>
      rw [cluster.eq_def, Effect.ofCluster]
      dsimp only
      split
      · rw [List.foldlM_cons]
        exact congrArg _ (funext ih)
      · split
        · rw [List.foldlM_cons]
          exact congrArg _ (funext ih)
        · split
          · rw [foldlM_perform_singleton]
            exact output_eq progress rest
          · rfl

theorem positional_eq (progress : Progress) (word : String) :
    progress.positional word = progress.perform (progress.positionalEffect word) := by
  unfold positional positionalEffect
  split <;> rfl

theorem plain_eq (progress : Progress) (word : String) :
    progress.plain word = progress.perform (progress.plainEffect word) := by
  obtain ⟨given, pending, positionalOnly⟩ := progress
  rcases pending with _ | ⟨argument, _ | value⟩
  · exact positional_eq _ word
  · rfl
  · exact positional_eq _ word

theorem word_eq (progress : Progress) (word : String) :
    progress.word word = (progress.effects word).foldlM perform progress := by
  unfold Progress.word effects
  split
  · exact (positional_eq progress word).trans (foldlM_perform_singleton progress _).symm
  · cases Word.ofChars word.toList with
    | separator => rfl
    | long name value =>
        exact (long_eq progress name value).trans (foldlM_perform_singleton progress _).symm
    | cluster letters => exact cluster_eq progress letters
    | plain => exact (plain_eq progress word).trans (foldlM_perform_singleton progress _).symm

/-! ## What an effect leaves behind -/

/-- A progress and what it is once it is settled. -/
inductive Settled (progress : Progress) : Progress → Prop where
  | nothing (hpending : progress.pending = none) : Settled progress progress
  | accepted {argument : ValueArgument} {value : Option String} {given : Given}
      (hpending : progress.pending = some ⟨argument, value⟩)
      (haccept : progress.given.accept argument value = .ok given) :
      Settled progress { progress with given, pending := none }

theorem settled (hsettle : progress.settle = .ok next) : progress.Settled next := by
  unfold settle at hsettle
  split at hsettle
  · rename_i hpending
    obtain rfl := Except.ok.inj hsettle
    exact .nothing hpending
  · rename_i argument value hpending
    obtain ⟨given, haccept, rfl⟩ := ok_of_map_eq_ok hsettle
    exact .accepted hpending haccept

theorem Settled.pending (hsettled : progress.Settled next) : next.pending = none := by
  cases hsettled with
  | nothing hpending => exact hpending
  | accepted => rfl

theorem Settled.positionalOnly
    (hsettled : progress.Settled next) : next.positionalOnly = progress.positionalOnly := by
  cases hsettled <;> rfl

/-- A progress and what an effect makes of it. -/
inductive Performed (progress : Progress) : Effect → Progress → Prop where
  | separate : Performed progress .separate { progress with positionalOnly := true }
  | begin {settled : Progress} (argument : ValueArgument) (value : Option String)
      (hsettled : progress.Settled settled) :
      Performed progress (.begin argument value)
        { settled with pending := some ⟨argument, value⟩ }
  | attach {settled : Progress} {argument : ValueArgument} {value : List Char} {given : Given}
      (hsettled : progress.Settled settled)
      (haccept : settled.given.accept argument (some (String.ofList value)) = .ok given) :
      Performed progress (.attach argument value) { settled with given }
  | flag {settled : Progress} {flag : Flag} {given : Given}
      (hsettled : progress.Settled settled) (hraise : settled.given.raise flag = .ok given) :
      Performed progress (.flag flag) { settled with given }
  | fill (word : String) :
      Performed progress (.fill word)
        { progress with pending := progress.pending.map ({ · with value := some word }) }

theorem performed (hnext : progress.perform effect = .ok next) :
    progress.Performed effect next := by
  cases effect with
  | refuse error => contradiction
  | separate =>
      obtain rfl := Except.ok.inj hnext
      exact .separate
  | begin argument value =>
      obtain ⟨middle, hsettle, rfl⟩ := ok_of_map_eq_ok hnext
      exact .begin argument value (settled hsettle)
  | attach argument value =>
      obtain ⟨middle, hsettle, hnext⟩ := ok_of_bind_eq_ok hnext
      obtain ⟨given, haccept, hnext⟩ := ok_of_bind_eq_ok hnext
      obtain rfl := Except.ok.inj hnext
      exact .attach (settled hsettle) haccept
  | flag flag =>
      obtain ⟨middle, hsettle, hnext⟩ := ok_of_bind_eq_ok hnext
      obtain ⟨given, hraise, hnext⟩ := ok_of_bind_eq_ok hnext
      obtain rfl := Except.ok.inj hnext
      exact .flag (settled hsettle) hraise
  | fill word =>
      obtain rfl := Except.ok.inj hnext
      exact .fill word

theorem Performed.positionalOnly
    (hperformed : progress.Performed effect next) (heffect : effect ≠ .separate) :
    next.positionalOnly = progress.positionalOnly := by
  cases hperformed with
  | separate => contradiction
  | begin _ _ hsettled => exact hsettled.positionalOnly
  | attach hsettled => exact hsettled.positionalOnly
  | flag hsettled => exact hsettled.positionalOnly
  | fill => rfl

/-- The argument that is pending behind an effect was so before or is the effect's own. -/
theorem Performed.argument_of_pending
    {pending : Pending}
    (hperformed : progress.Performed effect next) (hpending : next.pending = some pending) :
    (∃ earlier, progress.pending = some earlier ∧ earlier.argument = pending.argument) ∨
      effect.argument? = some pending.argument := by
  cases hperformed with
  | separate => exact .inl ⟨pending, hpending, rfl⟩
  | begin argument value =>
      obtain rfl := Option.some.inj hpending
      exact .inr rfl
  | attach hsettled =>
      rw [hsettled.pending] at hpending
      contradiction
  | flag hsettled =>
      rw [hsettled.pending] at hpending
      contradiction
  | fill word =>
      obtain ⟨earlier, hearlier, rfl⟩ := Option.map_eq_some_iff.mp hpending
      exact .inl ⟨earlier, hearlier, rfl⟩

end Progress

/-! ## Which words separate, and which name the height -/

/-- The text as the height of the glyphs, given in one word. -/
def heightWord (text : String) : String := "--glyph-height=" ++ text

theorem length_heightWord (text : String) : (heightWord text).length = 15 + text.length :=
  String.length_append _ _

def NamesHeight (word : String) : Prop :=
  word = "--glyph-height" ∨ ∃ text, word = heightWord text

theorem NamesHeight.ne_separator {word : String} (hnames : NamesHeight word) : word ≠ "--" := by
  rintro rfl
  rcases hnames with hlong | ⟨text, hlong⟩
  · exact absurd hlong (by decide)
  · have hlength : 2 = 15 + text.length :=
      (congrArg String.length hlong).trans (length_heightWord text)
    omega

namespace Effect

/-- The effect neither separates nor has to do with the height. -/
def Ordinary (effect : Effect) : Prop :=
  effect ≠ .separate ∧ effect.argument? ≠ some .glyphHeight

instance : DecidablePred Ordinary :=
  fun _ => inferInstanceAs (Decidable (_ ∧ _))

theorem ordinary_of_mem_ofCluster
    {effect : Effect} {letters : List Char} (heffect : effect ∈ ofCluster letters) :
    effect.Ordinary := by
  induction letters with
  | nil => contradiction
  | cons letter rest ih =>
      have houtput : (ofOutput rest).Ordinary := by
        unfold ofOutput
        split <;> exact ⟨by simp, by simp [argument?]⟩
      unfold ofCluster at heffect
      split at heffect
      · rcases List.mem_cons.mp heffect with rfl | hrest
        · decide
        · exact ih hrest
      · split at heffect
        · rcases List.mem_cons.mp heffect with rfl | hrest
          · decide
          · exact ih hrest
        · split at heffect
          · obtain rfl := List.mem_singleton.mp heffect
            exact houtput
          · obtain rfl := List.mem_singleton.mp heffect
            exact ⟨by simp, by simp [argument?]⟩

theorem longArgument?_of_ofLong
    {name : List Char} {value : Option (List Char)} {argument : ValueArgument}
    (hargument : (ofLong name value).argument? = some argument) :
    longArgument? name = some (.inl argument) := by
  unfold ofLong at hargument
  generalize longArgument? name = found at hargument ⊢
  rcases found with _ | other | raised
  · contradiction
  · cases value <;> simpa [argument?] using hargument
  · cases value <;> contradiction

theorem ofLong_ne_separate (name : List Char) (value : Option (List Char)) :
    ofLong name value ≠ .separate := by
  unfold ofLong
  rcases longArgument? name with _ | argument | raised <;> cases value <;> simp

end Effect

theorem eq_of_longArgument?
    {name : List Char} (hname : longArgument? name = some (.inl .glyphHeight)) :
    name = "glyph-height".toList := by
  by_contra hother
  unfold longArgument? at hname
  rw [if_neg hother] at hname
  repeat' split at hname
  all_goals cases hname

theorem splitEquals_append (text : List Char) :
    text = (splitEquals text).1 ++ ((splitEquals text).2.map ('=' :: ·)).getD [] := by
  have hsplit := List.takeWhile_append_dropWhile (p := (· != '=')) (l := text)
  unfold splitEquals
  split
  · simp
  · rename_i c value hdrop
    have hc : c = '=' := by
      have hhead := List.head?_dropWhile_not (· != '=') text
      rw [hdrop] at hhead
      simpa using hhead
    subst hc
    rw [hdrop] at hsplit
    exact hsplit.symm

theorem eq_of_ofChars_separator
    {word : String} (hword : Word.ofChars word.toList = .separator) : word = "--" := by
  apply String.toList_inj.mp
  unfold Word.ofChars at hword
  split at hword
  · assumption
  all_goals contradiction

theorem eq_of_ofChars_long
    {chars name : List Char} {value : Option (List Char)}
    (hchars : Word.ofChars chars = .long name value) :
    chars = '-' :: '-' :: (name ++ (value.map ('=' :: ·)).getD []) := by
  unfold Word.ofChars at hchars
  split at hchars
  case h_2 rest _ =>
    obtain ⟨rfl, rfl⟩ := Word.long.inj hchars
    rw [← splitEquals_append]
  all_goals contradiction

namespace Progress

variable {progress next : Progress} {word : String} {effect : Effect}

theorem ordinary_positionalEffect (progress : Progress) (word : String) :
    (progress.positionalEffect word).Ordinary := by
  unfold positionalEffect
  split <;> exact ⟨by simp, by simp [Effect.argument?]⟩

theorem ordinary_plainEffect (progress : Progress) (word : String) :
    (progress.plainEffect word).Ordinary := by
  unfold plainEffect
  split
  · exact ⟨by simp, by simp [Effect.argument?]⟩
  · exact ordinary_positionalEffect progress word

/-- Only a word of two hyphens separates, and only a long word may name the height. -/
theorem effects_cases (progress : Progress) (word : String) :
    (progress.positionalOnly = false ∧ word = "--" ∧ progress.effects word = [.separate]) ∨
      (progress.positionalOnly = false ∧ ∃ name value,
        Word.ofChars word.toList = .long name value ∧
          progress.effects word = [.ofLong name value]) ∨
      ∀ effect ∈ progress.effects word, effect.Ordinary := by
  unfold effects
  split
  · exact .inr (.inr (List.forall_mem_singleton.mpr (ordinary_positionalEffect progress word)))
  · rename_i hopen
    rw [Bool.not_eq_true] at hopen
    cases hword : Word.ofChars word.toList with
    | separator => exact .inl ⟨hopen, eq_of_ofChars_separator hword, rfl⟩
    | long name value => exact .inr (.inl ⟨hopen, name, value, rfl, rfl⟩)
    | cluster letters =>
        exact .inr (.inr fun effect heffect => Effect.ordinary_of_mem_ofCluster heffect)
    | plain =>
        exact .inr (.inr (List.forall_mem_singleton.mpr (ordinary_plainEffect progress word)))

theorem eq_separator_of_mem_effects
    (heffect : .separate ∈ progress.effects word) :
    progress.positionalOnly = false ∧ word = "--" := by
  rcases progress.effects_cases word with
    ⟨hopen, hword, -⟩ | ⟨-, name, value, -, heffects⟩ | hordinary
  · exact ⟨hopen, hword⟩
  · rw [heffects, List.mem_singleton] at heffect
    exact absurd heffect.symm (Effect.ofLong_ne_separate name value)
  · exact absurd rfl (hordinary _ heffect).1

theorem namesHeight_of_mem_effects
    (heffect : effect ∈ progress.effects word)
    (hargument : effect.argument? = some .glyphHeight) :
    progress.positionalOnly = false ∧ NamesHeight word := by
  rcases progress.effects_cases word with
    ⟨-, -, heffects⟩ | ⟨hopen, name, value, hword, heffects⟩ | hordinary
  · rw [heffects, List.mem_singleton] at heffect
    subst heffect
    contradiction
  · rw [heffects, List.mem_singleton] at heffect
    subst heffect
    obtain rfl := eq_of_longArgument? (Effect.longArgument?_of_ofLong hargument)
    have hchars := eq_of_ofChars_long hword
    refine ⟨hopen, ?_⟩
    cases value with
    | none => exact .inl (String.toList_inj.mp hchars)
    | some text =>
        have htext : (heightWord (String.ofList text)).toList = "--glyph-height=".toList ++ text :=
          String.toList_append.trans (congrArg ("--glyph-height=".toList ++ ·) String.toList_ofList)
        exact .inr ⟨String.ofList text, String.toList_inj.mp (hchars.trans htext.symm)⟩
  · exact absurd hargument (hordinary _ heffect).2

/-- Behind a separator all words are positional, and behind no other word. -/
theorem positionalOnly_of_word
    (hnext : progress.word word = .ok next) :
    next.positionalOnly = (progress.positionalOnly || word == "--") := by
  by_cases hseparates : .separate ∈ progress.effects word
  · obtain ⟨hopen, rfl⟩ := eq_separator_of_mem_effects hseparates
    rw [word_of_separator hopen rfl] at hnext
    obtain rfl := Except.ok.inj hnext
    simp
  · rw [word_eq] at hnext
    have hsame := foldlM_preserves
      (fun effects state => .separate ∉ effects ∧
        state.positionalOnly = progress.positionalOnly)
      (fun effect rest state after hstate hafter =>
        ⟨fun hrest => hstate.1 (List.mem_cons_of_mem effect hrest),
          ((performed hafter).positionalOnly
            (fun heffect => hstate.1 (heffect ▸ List.mem_cons_self))).trans hstate.2⟩)
      ⟨hseparates, rfl⟩ hnext
    rw [hsame.2]
    cases hopen : progress.positionalOnly with
    | true => rfl
    | false =>
        symm
        rw [Bool.false_or, beq_eq_false_iff_ne]
        rintro rfl
        apply hseparates
        unfold effects
        rw [hopen]
        exact List.mem_singleton_self _

end Progress

end BitmapFont.CommandLine
