import BitmapFont.CommandLine.Parse
import BitmapFont.Proofs.DecimalHeight
import BitmapFont.Proofs.FallibleSteps
import Mathlib.Data.List.Pairwise
import Mathlib.Data.List.Perm.Basic
import Mathlib.Data.List.TakeWhile

/-!
# Command lines made of groups

A group is an argument with its value as it may be spelled on a command line: one word
or two, or any number of letters in one cluster.  Read after any other groups, the words
of a group add what the group says to what has been given before, whether or not an
argument is still pending, so a command line gives the same in any order of its groups
as long as no argument is given twice.
-/

namespace BitmapFont.CommandLine

inductive OutputSpelling where
  | equals
  | joined
  | separate
  deriving Repr, DecidableEq

inductive LongSpelling where
  | equals
  | separate
  deriving Repr, DecidableEq

inductive VerboseSpelling where
  | long
  /-- A letter and so many more of them behind it. -/
  | cluster (more : Nat)
  deriving Repr, DecidableEq

inductive Group where
  | font (path : String)
  | output (spelling : OutputSpelling) (path : String)
  | exactWidth
  | preview (spelling : LongSpelling) (chars : String)
  | glyphHeight (spelling : LongSpelling) (height : UInt8)
  | verbose (spelling : VerboseSpelling)
  deriving Repr, DecidableEq

def LongSpelling.words (option value : String) : LongSpelling → List String
  | equals => [option ++ "=" ++ value]
  | separate => [option, value]

def VerboseSpelling.word : VerboseSpelling → String
  | long => "--verbose"
  | cluster more => String.ofList ('-' :: List.replicate (more + 1) 'v')

def VerboseSpelling.count : VerboseSpelling → Nat
  | long => 1
  | cluster more => more + 1

def Group.words : Group → List String
  | font path => [path]
  | output .equals path => ["-o=" ++ path]
  | output .joined path => ["-o" ++ path]
  | output .separate path => ["-o", path]
  | exactWidth => ["--exact-width"]
  | preview spelling chars => spelling.words "--preview" chars
  | glyphHeight spelling height => spelling.words "--glyph-height" (toString height.toNat)
  | verbose spelling => [spelling.word]

/-- A word that can be a value of its own. -/
def StandsAlone (word : String) : Prop :=
  word.toList.head? ≠ some '-' ∨ word = "-"

instance (word : String) : Decidable (StandsAlone word) :=
  inferInstanceAs (Decidable (_ ∨ _))

/-- The words of the group say what the group does, and the value is one that its
argument takes. -/
def Group.Readable : Group → Prop
  | font path => path ≠ "" ∧ StandsAlone path
  | output .equals path => path ≠ ""
  | output .joined path => path ≠ "" ∧ path.toList.head? ≠ some '='
  | output .separate path => path ≠ "" ∧ StandsAlone path
  | exactWidth => True
  | preview .equals _ => True
  | preview .separate chars => StandsAlone chars
  | glyphHeight _ height => height ≠ 0
  | verbose _ => True

instance : DecidablePred Group.Readable
  | .font _ | .output .joined _ | .output .separate _ => inferInstanceAs (Decidable (_ ∧ _))
  | .output .equals _ | .glyphHeight _ _ => inferInstanceAs (Decidable (_ ≠ _))
  | .preview .separate chars => inferInstanceAs (Decidable (StandsAlone chars))
  | .exactWidth | .preview .equals _ | .verbose _ => .isTrue trivial

def Group.argument : Group → ValueArgument ⊕ Flag
  | font _ => .inl .font
  | output _ _ => .inl .output
  | exactWidth => .inr .exactWidth
  | preview _ _ => .inl .preview
  | glyphHeight _ _ => .inl .glyphHeight
  | verbose _ => .inr .verbose

/-- Both groups may stand on one command line. -/
def Group.Distinct (first second : Group) : Prop :=
  first.argument = second.argument → first.argument = .inr .verbose

instance : Std.Symm Group.Distinct where
  symm first second hdistinct heq := by
    rw [heq]
    exact hdistinct heq.symm

namespace Given

def add (given : Given) : Group → Given
  | .font path => { given with font := some path }
  | .output _ path => { given with output := some path }
  | .exactWidth => { given with exactWidth := true }
  | .preview _ chars => { given with preview := some chars }
  | .glyphHeight _ height => { given with glyphHeight := some height }
  | .verbose spelling =>
      { given with verbosity := min (given.verbosity + spelling.count) maxVerbosity }

def Lacks (given : Given) : Group → Prop
  | .font _ => given.font = none
  | .output _ _ => given.output = none
  | .exactWidth => given.exactWidth = false
  | .preview _ _ => given.preview = none
  | .glyphHeight _ _ => given.glyphHeight = none
  | .verbose _ => True

variable {given : Given}

theorem Lacks.add
    {group other : Group} (hlacks : given.Lacks other) (hdistinct : group.Distinct other) :
    (given.add group).Lacks other := by
  -- A group touches nothing but its own argument, which the other shares only if both
  -- are verbose, and then there is nothing to lack.
  cases group <;> cases other <;>
    simp_all [Given.Lacks, Given.add, Group.Distinct, Group.argument]

theorem add_comm
    {first second : Group} (given : Given) (hdistinct : first.Distinct second) :
    (given.add first).add second = (given.add second).add first := by
  cases first <;> cases second <;>
    simp_all [Given.add, Group.Distinct, Group.argument]
  omega

/-! ## What an argument with its value gives -/

theorem accept_of_set
    {argument : ValueArgument} {value : String} {after : Given}
    (hlacks : given.has argument = false) (hset : given.set argument value = .ok after) :
    given.accept argument (some value) = .ok after := by
  simp [Given.accept, hlacks, hset, Except.mapError]

theorem accept_font
    {path : String} (hlacks : given.font = none) (hpath : path ≠ "") :
    given.accept .font (some path) = .ok (given.add (.font path)) :=
  accept_of_set (by simp [Given.has, hlacks]) (by simp [Given.set, Given.add, hpath])

theorem accept_output
    {path : String} (spelling : OutputSpelling)
    (hlacks : given.output = none) (hpath : path ≠ "") :
    given.accept .output (some path) = .ok (given.add (.output spelling path)) :=
  accept_of_set (by simp [Given.has, hlacks]) (by simp [Given.set, Given.add, hpath])

theorem accept_preview
    (spelling : LongSpelling) (chars : String) (hlacks : given.preview = none) :
    given.accept .preview (some chars) = .ok (given.add (.preview spelling chars)) :=
  accept_of_set (by simp [Given.has, hlacks]) rfl

theorem accept_glyphHeight
    {height : UInt8} (spelling : LongSpelling)
    (hlacks : given.glyphHeight = none) (hheight : height ≠ 0) :
    given.accept .glyphHeight (some (toString height.toNat)) =
      .ok (given.add (.glyphHeight spelling height)) :=
  accept_of_set (by simp [Given.has, hlacks])
    (by simp only [Given.set, readHeight_toString hheight, Given.add])

theorem set_of_accept
    {argument : ValueArgument} {value : String} {after : Given}
    (haccept : given.accept argument (some value) = .ok after) :
    given.set argument value = .ok after := by
  simp only [Given.accept] at haccept
  split at haccept
  · contradiction
  · cases hset : given.set argument value with
    | error error => simp [hset, Except.mapError] at haccept
    | ok set => simpa [hset, Except.mapError] using haccept

/-- A value makes its own argument given and no other. -/
theorem has_of_accept
    {argument : ValueArgument} {value : Option String} {after : Given} (other : ValueArgument)
    (haccept : given.accept argument value = .ok after) :
    after.has other = (given.has other || argument == other) := by
  cases value with
  | none => contradiction
  | some value =>
      have hset := set_of_accept haccept
      cases argument with
      | preview =>
          cases hset
          cases other <;> simp [Given.has]
      | font | output | glyphHeight =>
          simp only [Given.set] at hset
          split at hset <;> cases hset
          cases other <;> simp [Given.has]

theorem raise_exactWidth
    (hlacks : given.exactWidth = false) :
    given.raise .exactWidth = .ok (given.add .exactWidth) := by
  simp [Given.raise, Given.add, hlacks]

theorem raise_verbose (given : Given) :
    given.raise .verbose = .ok (given.add (.verbose .long)) := rfl

theorem add_verbose_long (given : Given) (more : Nat) :
    (given.add (.verbose .long)).add (.verbose (.cluster more)) =
      given.add (.verbose (.cluster (more + 1))) := by
  simp only [Given.add, VerboseSpelling.count, Given.mk.injEq, true_and]
  omega

end Given

/-! ## Progress that stands for what is given -/

/-- The progress comes to what is given as soon as it is settled, and no argument still
waits for its value. -/
inductive Progress.Holds : Given → Bool → Progress → Prop where
  | settled (given : Given) (positionalOnly : Bool) :
      Holds given positionalOnly ⟨given, none, positionalOnly⟩
  | pending {before given : Given} {argument : ValueArgument} {value : String}
      (positionalOnly : Bool) (haccept : before.accept argument (some value) = .ok given) :
      Holds given positionalOnly ⟨before, some ⟨argument, some value⟩, positionalOnly⟩

namespace Progress

variable {given after : Given} {positionalOnly : Bool} {progress : Progress}

theorem Holds.settle
    (hholds : progress.Holds given positionalOnly) :
    progress.settle = .ok ⟨given, none, positionalOnly⟩ := by
  cases hholds with
  | settled => rfl
  | pending _ haccept => simp [Progress.settle, haccept, Except.map]

theorem Holds.fontTaken
    (hholds : progress.Holds given positionalOnly) :
    progress.fontTaken = given.font.isSome := by
  cases hholds with
  | settled => simp [Progress.fontTaken]
  | pending _ haccept =>
      exact (Given.has_of_accept .font haccept).symm

theorem Holds.begin
    (hholds : progress.Holds given positionalOnly)
    (argument : ValueArgument) (value : Option String) :
    progress.begin argument value =
      .ok ⟨given, some ⟨argument, value⟩, positionalOnly⟩ := by
  simp [Progress.begin, hholds.settle, Except.map]

theorem Holds.attach
    {argument : ValueArgument} {value : String}
    (hholds : progress.Holds given positionalOnly)
    (haccept : given.accept argument (some value) = .ok after) :
    progress.attach argument value.toList = .ok ⟨after, none, positionalOnly⟩ := by
  rw [Progress.attach, bind_of_eq_ok _ hholds.settle, String.ofList_toList]
  exact bind_of_eq_ok _ haccept

theorem Holds.flag
    {flag : Flag}
    (hholds : progress.Holds given positionalOnly)
    (hraise : given.raise flag = .ok after) :
    progress.flag flag = .ok ⟨after, none, positionalOnly⟩ := by
  rw [Progress.flag, bind_of_eq_ok _ hholds.settle]
  exact bind_of_eq_ok _ hraise

theorem Holds.positional
    {path : String}
    (hholds : progress.Holds given positionalOnly)
    (haccept : given.accept .font (some path) = .ok after) (hlacks : given.font = none) :
    ∃ next, progress.positional path = .ok next ∧ next.Holds after positionalOnly := by
  refine ⟨_, ?_, .pending positionalOnly haccept⟩
  simp [Progress.positional, hholds.fontTaken, hlacks, hholds.begin]

theorem cluster_verbose (progress : Progress) (letters : List Char) :
    progress.cluster ('v' :: letters) =
      (progress.flag .verbose >>= fun after => after.cluster letters) := by
  rw [Progress.cluster.eq_def]
  rfl

theorem Holds.cluster
    (more : Nat) (hholds : progress.Holds given positionalOnly) :
    progress.cluster (List.replicate (more + 1) 'v') =
      .ok ⟨given.add (.verbose (.cluster more)), none, positionalOnly⟩ := by
  -- Each letter settles what the one before has left, so the rest of the cluster is read
  -- from a progress that has nothing pending.
  induction more generalizing progress given with
  | zero =>
      rw [List.replicate_one, cluster_verbose,
        bind_of_eq_ok _ (hholds.flag (Given.raise_verbose given))]
      rfl
  | succ more ih =>
      have hrest := ih (.settled (given.add (.verbose .long)) positionalOnly)
      rw [List.replicate_succ, cluster_verbose,
        bind_of_eq_ok _ (hholds.flag (Given.raise_verbose given)), hrest,
        Given.add_verbose_long]

/-! ## What a word does to it -/

section Words

variable {word : String}

theorem word_of_separator
    (hopen : progress.positionalOnly = false) (hword : Word.ofChars word.toList = .separator) :
    progress.word word = .ok { progress with positionalOnly := true } := by
  simp only [Progress.word, hopen, hword]
  rfl

theorem word_of_long
    {name : List Char} {value : Option (List Char)}
    (hopen : progress.positionalOnly = false)
    (hword : Word.ofChars word.toList = .long name value) :
    progress.word word = progress.long name value := by
  simp only [Progress.word, hopen, hword]
  rfl

theorem word_of_cluster
    {letters : List Char}
    (hopen : progress.positionalOnly = false)
    (hword : Word.ofChars word.toList = .cluster letters) :
    progress.word word = progress.cluster letters := by
  simp only [Progress.word, hopen, hword]
  rfl

theorem word_of_plain
    (hopen : progress.positionalOnly = false) (hword : Word.ofChars word.toList = .plain) :
    progress.word word = progress.plain word := by
  simp only [Progress.word, hopen, hword]
  rfl

theorem read_word
    {next : Progress} (hword : progress.word word = .ok next) :
    [word].foldlM Progress.word progress = .ok next := by
  rw [List.foldlM_cons, bind_of_eq_ok _ hword]
  rfl

theorem read_words
    {second : String} {middle next : Progress}
    (hword : progress.word word = .ok middle) (hsecond : middle.word second = .ok next) :
    [word, second].foldlM Progress.word progress = .ok next := by
  rw [List.foldlM_cons, bind_of_eq_ok _ hword]
  exact read_word hsecond

end Words

theorem Holds.positionalOnly_eq
    (hholds : progress.Holds given positionalOnly) :
    progress.positionalOnly = positionalOnly := by
  cases hholds <;> rfl

theorem Holds.plain
    (hholds : progress.Holds given positionalOnly) (word : String) :
    progress.plain word = progress.positional word := by
  cases hholds <;> rfl

theorem ofChars_of_standsAlone
    {word : String} (halone : StandsAlone word) : Word.ofChars word.toList = .plain := by
  rcases halone with hhead | rfl
  · unfold Word.ofChars
    split <;> simp_all
  · rfl

theorem standsAlone_toString (number : Nat) : StandsAlone (toString number) := by
  refine .inl fun hhead => ?_
  rw [Nat.toString_eq_ofList_toDigits, String.toList_ofList] at hhead
  have hdigit := Nat.isDigit_of_mem_toDigits (by decide) (by decide) (List.mem_of_head? hhead)
  exact absurd hdigit (by decide)

theorem ofChars_long
    {name : List Char} (hname : name ≠ []) :
    Word.ofChars ('-' :: '-' :: name) =
      .long (splitEquals name).1 (splitEquals name).2 := by
  cases name with
  | nil => contradiction
  | cons => rfl

theorem splitEquals_of_plain
    {name : List Char} (hplain : '=' ∉ name) : splitEquals name = (name, none) := by
  have hdrop : name.dropWhile (· != '=') = [] := by
    rw [List.dropWhile_eq_nil_iff]
    intro c hc
    exact bne_iff_ne.mpr (by rintro rfl; exact hplain hc)
  simp only [splitEquals, hdrop]

theorem splitEquals_of_equals
    {name value : List Char} (hplain : '=' ∉ name) :
    splitEquals (name ++ '=' :: value) = (name, some value) := by
  have hname : ∀ c ∈ name, (c != '=') = true :=
    fun c hc => bne_iff_ne.mpr (by rintro rfl; exact hplain hc)
  have hdrop : (name ++ '=' :: value).dropWhile (· != '=') = '=' :: value := by
    rw [List.dropWhile_append_of_pos hname]
    rfl
  have htake : (name ++ '=' :: value).takeWhile (· != '=') = name := by
    rw [List.takeWhile_append_of_pos hname]
    simp
  simp only [splitEquals, hdrop, htake]

theorem cluster_output
    {path : List Char} (hpath : path ≠ []) (hhead : path.head? ≠ some '=') :
    progress.cluster ('o' :: path) = progress.attach .output path := by
  rw [Progress.cluster.eq_def]
  dsimp only
  rw [if_neg (by decide), if_neg (by decide), if_pos rfl]
  split
  · exact absurd rfl hpath
  · exact absurd rfl hhead
  · rfl

/-- An option whose value is the word behind it. -/
theorem Holds.separate
    {option value : String} {argument : ValueArgument}
    (hholds : progress.Holds given false)
    (hoption : progress.word option = progress.begin argument none)
    (hvalue : StandsAlone value)
    (haccept : given.accept argument (some value) = .ok after) :
    ∃ next,
      [option, value].foldlM Progress.word progress = .ok next ∧ next.Holds after false := by
  refine ⟨_, read_words (hoption.trans (hholds.begin argument none)) ?_,
    .pending false haccept⟩
  rw [word_of_plain rfl (ofChars_of_standsAlone hvalue)]
  rfl

/-- A word that gives an option together with its value. -/
theorem Holds.attached
    {word value : String} {argument : ValueArgument}
    (hholds : progress.Holds given false)
    (hword : progress.word word = progress.attach argument value.toList)
    (haccept : given.accept argument (some value) = .ok after) :
    ∃ next, [word].foldlM Progress.word progress = .ok next ∧ next.Holds after false :=
  ⟨_, read_word (hword.trans (hholds.attach haccept)), .settled after false⟩

/-- The name of an option has no equals sign, so the first one in the word ends it,
whatever the value holds. -/
theorem word_of_equals
    {value : String} {argument : ValueArgument}
    (name : String) (hopen : progress.positionalOnly = false)
    (hplain : '=' ∉ name.toList)
    (hargument : longArgument? name.toList = some (.inl argument)) :
    progress.word ("--" ++ name ++ "=" ++ value) = progress.attach argument value.toList := by
  have hword :
      Word.ofChars ("--" ++ name ++ "=" ++ value).toList =
        .long name.toList (some value.toList) := by
    simp only [String.toList_append, List.append_assoc]
    change Word.ofChars ('-' :: '-' :: (name.toList ++ '=' :: value.toList)) = _
    rw [ofChars_long (by simp), splitEquals_of_equals hplain]
  rw [word_of_long hopen hword]
  simp only [Progress.long, hargument]

theorem Holds.long
    {value : String} {argument : ValueArgument}
    (name : String) (spelling : LongSpelling)
    (hholds : progress.Holds given false)
    (hplain : '=' ∉ name.toList)
    (hargument : longArgument? name.toList = some (.inl argument))
    (hvalue : spelling = .separate → StandsAlone value)
    (haccept : given.accept argument (some value) = .ok after) :
    ∃ next,
      (spelling.words ("--" ++ name) value).foldlM Progress.word progress = .ok next ∧
        next.Holds after false := by
  have hname : name.toList ≠ [] := by
    intro hempty
    rw [hempty] at hargument
    contradiction
  have hopen := hholds.positionalOnly_eq
  cases spelling with
  | equals =>
      exact hholds.attached (word_of_equals name hopen hplain hargument) haccept
  | separate =>
      refine hholds.separate ?_ (hvalue rfl) haccept
      have hword : Word.ofChars ("--" ++ name).toList = .long name.toList none := by
        rw [String.toList_append]
        change Word.ofChars ('-' :: '-' :: name.toList) = _
        rw [ofChars_long hname, splitEquals_of_plain hplain]
      rw [word_of_long hopen hword]
      simp only [Progress.long, hargument]

theorem Holds.output
    {path : String}
    (spelling : OutputSpelling)
    (hholds : progress.Holds given false)
    (hreadable : (Group.output spelling path).Readable)
    (hlacks : given.output = none) :
    ∃ next,
      (Group.output spelling path).words.foldlM Progress.word progress = .ok next ∧
        next.Holds (given.add (.output spelling path)) false := by
  have hopen := hholds.positionalOnly_eq
  cases spelling with
  | equals =>
      refine hholds.attached ?_ (Given.accept_output _ hlacks hreadable)
      have hword :
          Word.ofChars ("-o=" ++ path).toList = .cluster ('o' :: '=' :: path.toList) := by
        rw [String.toList_append]
        rfl
      rw [word_of_cluster hopen hword]
      rfl
  | joined =>
      obtain ⟨hpath, hhead⟩ := hreadable
      refine hholds.attached ?_ (Given.accept_output _ hlacks hpath)
      have hword : Word.ofChars ("-o" ++ path).toList = .cluster ('o' :: path.toList) := by
        rw [String.toList_append]
        rfl
      rw [word_of_cluster hopen hword, cluster_output (by simpa using hpath) hhead]
  | separate =>
      obtain ⟨hpath, halone⟩ := hreadable
      refine hholds.separate ?_ halone (Given.accept_output _ hlacks hpath)
      have hword : Word.ofChars "-o".toList = .cluster ['o'] := rfl
      rw [word_of_cluster hopen hword]
      rfl

/-- The words of a group, read after any others, add what the group says. -/
theorem Holds.group
    {group : Group}
    (hholds : progress.Holds given false)
    (hreadable : group.Readable) (hlacks : given.Lacks group) :
    ∃ next,
      group.words.foldlM Progress.word progress = .ok next ∧
        next.Holds (given.add group) false := by
  have hopen := hholds.positionalOnly_eq
  cases group with
  | font path =>
      obtain ⟨hpath, halone⟩ := hreadable
      obtain ⟨next, hnext, hafter⟩ := hholds.positional (Given.accept_font hlacks hpath) hlacks
      refine ⟨next, read_word ?_, hafter⟩
      rw [word_of_plain hopen (ofChars_of_standsAlone halone), hholds.plain, hnext]
  | output spelling path => exact hholds.output spelling hreadable hlacks
  | exactWidth =>
      refine ⟨_, read_word ?_, .settled _ false⟩
      have hword : Word.ofChars "--exact-width".toList = .long "exact-width".toList none := rfl
      rw [word_of_long hopen hword]
      exact hholds.flag (Given.raise_exactWidth hlacks)
  | preview spelling chars =>
      refine hholds.long "preview" spelling (by decide) rfl ?_
        (Given.accept_preview spelling chars hlacks)
      rintro rfl
      exact hreadable
  | glyphHeight spelling height =>
      refine hholds.long "glyph-height" spelling (by decide) rfl ?_
        (Given.accept_glyphHeight spelling hlacks hreadable)
      rintro rfl
      exact standsAlone_toString height.toNat
  | verbose spelling =>
      refine ⟨_, read_word ?_, .settled _ false⟩
      cases spelling with
      | long =>
          have hword : Word.ofChars "--verbose".toList = .long "verbose".toList none := rfl
          rw [VerboseSpelling.word, word_of_long hopen hword]
          exact hholds.flag (Given.raise_verbose given)
      | cluster more =>
          have hword : Word.ofChars (VerboseSpelling.cluster more).word.toList =
              .cluster (List.replicate (more + 1) 'v') := by
            rw [VerboseSpelling.word, String.toList_ofList]
            rfl
          rw [word_of_cluster hopen hword, hholds.cluster more]

/-- Behind a separator a font path may look like anything. -/
theorem Holds.separatedFont
    {path : String}
    (hholds : progress.Holds given false) (hlacks : given.font = none) (hpath : path ≠ "") :
    ∃ next,
      ["--", path].foldlM Progress.word progress = .ok next ∧
        next.Holds (given.add (.font path)) true := by
  have hseparated : Holds given true { progress with positionalOnly := true } := by
    cases hholds with
    | settled => exact .settled given true
    | pending _ haccept => exact .pending true haccept
  obtain ⟨next, hnext, hafter⟩ :=
    hseparated.positional (Given.accept_font hlacks hpath) hlacks
  have hword : Word.ofChars "--".toList = .separator := rfl
  refine ⟨next, read_words (word_of_separator hholds.positionalOnly_eq hword) ?_, hafter⟩
  simp only [Progress.word, if_true, hnext]

end Progress

end BitmapFont.CommandLine
