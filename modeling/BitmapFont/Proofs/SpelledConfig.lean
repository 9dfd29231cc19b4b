import BitmapFont.Proofs.ArgumentGroups
import Mathlib.Algebra.GroupWithZero.Nat

/-!
# Configurations on a command line

A configuration can be written as a command line in many ways: its options in any order
and each in any of its spellings, the font path among them or behind a separator.  Every
one of them is read as that configuration, whatever output path the environment holds.
-/

namespace BitmapFont.CommandLine

/-- How the options of a configuration are spelled. -/
structure Spelling where
  output : OutputSpelling
  glyphHeight : LongSpelling
  preview : LongSpelling
  verbose : List VerboseSpelling
  deriving Repr, DecidableEq

def Spelling.verbosity (spelling : Spelling) : Nat :=
  (spelling.verbose.map VerboseSpelling.count).sum

/-- The groups of a configuration without its font path. -/
def Config.options (config : Config) (spelling : Spelling) : List Group :=
  .output spelling.output config.outputPath ::
    .glyphHeight spelling.glyphHeight config.glyphHeight ::
    ((if config.policy = .exact then [.exactWidth] else []) ++
      (config.preview.toList.map (.preview spelling.preview) ++
        spelling.verbose.map .verbose))

def Config.given (config : Config) : Given where
  font := some config.fontPath
  output := some config.outputPath
  preview := config.preview
  glyphHeight := some config.glyphHeight
  exactWidth := config.policy = .exact
  verbosity := config.verbosity

/-! ## Reading groups -/

/-- Groups of different arguments add up to the same in any order. -/
theorem foldl_add_perm
    {groups others : List Group} (hperm : groups.Perm others)
    (hdistinct : groups.Pairwise Group.Distinct) (given : Given) :
    groups.foldl Given.add given = others.foldl Given.add given := by
  refine hperm.foldl_eq' (fun first hfirst second hsecond given => ?_) given
  by_cases heq : first = second
  · rw [heq]
  · exact Given.add_comm given (hdistinct.forall hfirst hsecond heq)

theorem Progress.Holds.groups
    {given : Given} {progress : Progress} {groups : List Group}
    (hholds : progress.Holds given false)
    (hreadable : ∀ group ∈ groups, group.Readable)
    (hdistinct : groups.Pairwise Group.Distinct)
    (hlacks : ∀ group ∈ groups, given.Lacks group) :
    ∃ next,
      (groups.flatMap Group.words).foldlM Progress.word progress = .ok next ∧
        next.Holds (groups.foldl Given.add given) false := by
  induction groups generalizing given progress with
  | nil => exact ⟨progress, rfl, hholds⟩
  | cons group groups ih =>
      obtain ⟨hfirst, hothers⟩ := List.pairwise_cons.mp hdistinct
      obtain ⟨next, hnext, hadded⟩ :=
        hholds.group (hreadable group List.mem_cons_self) (hlacks group List.mem_cons_self)
      obtain ⟨last, hlast, hall⟩ := ih hadded
        (fun other hother => hreadable other (List.mem_cons_of_mem group hother))
        hothers
        (fun other hother =>
          (hlacks other (List.mem_cons_of_mem group hother)).add (hfirst other hother))
      refine ⟨last, ?_, hall⟩
      rw [List.flatMap_cons, List.foldlM_append, hnext]
      exact hlast

theorem Progress.Holds.finish
    {config : Config} {positionalOnly : Bool} {progress : Progress}
    (hholds : progress.Holds config.given positionalOnly) (environment : Option String) :
    progress.finish environment = .ok config := by
  simp only [Progress.finish, hholds.settle]
  obtain ⟨job, preview, verbosity⟩ := config
  obtain ⟨fontPath, outputPath, policy, glyphHeight⟩ := job
  cases policy <;> rfl

/-! ## The groups of a configuration -/

theorem Given.lacks_of_nothing (group : Group) : ({} : Given).Lacks group := by
  cases group with
  | verbose => trivial
  | _ => rfl

theorem foldl_add_verbose
    {given : Given} (spellings : List VerboseSpelling)
    (hgiven : given.verbosity ≤ maxVerbosity) :
    (spellings.map Group.verbose).foldl Given.add given =
      { given with
        verbosity :=
          min (given.verbosity + (spellings.map VerboseSpelling.count).sum) maxVerbosity } := by
  induction spellings generalizing given with
  | nil => simp [hgiven]
  | cons spelling spellings ih =>
      rw [List.map_cons, List.foldl_cons, ih (Nat.min_le_right _ _)]
      simp only [Given.add, List.map_cons, List.sum_cons, Given.mk.injEq, true_and]
      omega

theorem Config.foldl_options
    {config : Config} {spelling : Spelling}
    (hverbosity : config.verbosity = min spelling.verbosity maxVerbosity) :
    (config.options spelling).foldl Given.add {} = { config.given with font := none } := by
  obtain ⟨job, preview, verbosity⟩ := config
  obtain ⟨fontPath, outputPath, policy, glyphHeight⟩ := job
  have hverbose (given : Given) (hnone : given.verbosity = 0) :
      (spelling.verbose.map Group.verbose).foldl Given.add given =
        { given with verbosity } := by
    rw [foldl_add_verbose _ (by omega), hnone, Nat.zero_add]
    exact congrArg (fun verbosity => { given with verbosity }) hverbosity.symm
  cases policy <;> cases preview <;>
    simp only [Config.options, List.foldl_cons, List.foldl_append, reduceCtorEq, if_true,
      if_false, Option.toList, List.map_cons, List.map_nil, List.foldl_nil]
  all_goals
    rw [hverbose _ rfl]
    rfl

theorem Config.pairwise_groups (config : Config) (spelling : Spelling) :
    (Group.font config.fontPath :: config.options spelling).Pairwise Group.Distinct := by
  have hverbose : (spelling.verbose.map Group.verbose).Pairwise Group.Distinct :=
    List.pairwise_map.mpr (List.pairwise_of_forall fun _ _ _ => rfl)
  unfold Config.options
  cases config.policy <;> cases config.preview <;>
    simp [hverbose, Group.Distinct, Group.argument]

/-- Words of groups in any order are read as what the groups add up to. -/
theorem read_groups
    {groups others : List Group} (hperm : groups.Perm others)
    (hdistinct : others.Pairwise Group.Distinct)
    (hreadable : ∀ group ∈ others, group.Readable) :
    ∃ progress,
      (groups.flatMap Group.words).foldlM Progress.word {} = .ok progress ∧
        progress.Holds (others.foldl Given.add {}) false := by
  rw [foldl_add_perm hperm.symm hdistinct]
  exact (Progress.Holds.settled {} false).groups
    (fun group hgroup => hreadable group (hperm.mem_iff.mp hgroup))
    (hperm.symm.pairwise hdistinct (Std.Symm.symm _ _))
    (fun group _ => Given.lacks_of_nothing group)

/-- A command line may give a configuration in any order of its groups and in any
spelling, and its font path may stand among them or behind a separator. -/
theorem parse_spelled
    (config : Config) (spelling : Spelling)
    (hfont : config.fontPath ≠ "")
    (hreadable : ∀ group ∈ config.options spelling, group.Readable)
    (hverbosity : config.verbosity = min spelling.verbosity maxVerbosity)
    (environment : Option String) :
    (StandsAlone config.fontPath →
      ∀ groups : List Group,
        groups.Perm (.font config.fontPath :: config.options spelling) →
        parse environment (groups.flatMap Group.words) = .ok config) ∧
      ∀ groups : List Group,
        groups.Perm (config.options spelling) →
        parse environment (groups.flatMap Group.words ++ ["--", config.fontPath]) =
          .ok config := by
  have hoptions := Config.foldl_options hverbosity
  have hpairwise := config.pairwise_groups spelling
  refine ⟨fun halone groups hperm => ?_, fun groups hperm => ?_⟩
  · obtain ⟨progress, hread, hholds⟩ := read_groups hperm hpairwise (by
      rintro group (_ | ⟨_, hgroup⟩)
      · exact ⟨hfont, halone⟩
      · exact hreadable group hgroup)
    -- The options alone add up to all but the font path, so that comes last.
    have hlast := foldl_add_perm
      (List.perm_append_singleton (.font config.fontPath) (config.options spelling)).symm
      hpairwise {}
    rw [hlast, List.foldl_append, hoptions] at hholds
    unfold parse
    rw [hread]
    exact hholds.finish environment
  · obtain ⟨progress, hread, hholds⟩ :=
      read_groups hperm (List.pairwise_cons.mp hpairwise).2 hreadable
    rw [hoptions] at hholds
    obtain ⟨last, hlast, hgiven⟩ := hholds.separatedFont rfl hfont
    have hwords :
        (groups.flatMap Group.words ++ ["--", config.fontPath]).foldlM Progress.word {} =
          .ok last := by
      rw [List.foldlM_append, hread]
      exact hlast
    unfold parse
    rw [hwords]
    exact hgiven.finish environment

theorem parse_spelled_lone_hyphen :
    let config : Config :=
      { fontPath := "-", outputPath := "a=b", policy := .exact, glyphHeight := 8
        preview := some "", verbosity := 3 }
    parse (some "")
        ["-vv", "--preview", "", "-", "--exact-width", "-oa=b", "--verbose",
          "--glyph-height=8"] = .ok config ∧
      parse none
        ["--glyph-height=8", "--preview", "", "-vv", "--verbose", "-oa=b", "--exact-width",
          "--", "-"] = .ok config := by
  intro config
  have hspelled :=
    parse_spelled config ⟨.joined, .equals, .separate, [.cluster 1, .long]⟩
      (by decide) (by decide) rfl
  refine ⟨(hspelled (some "")).1 (by decide)
    [.verbose (.cluster 1), .preview .separate "", .font "-", .exactWidth,
      .output .joined "a=b", .verbose .long, .glyphHeight .equals 8] (by decide), ?_⟩
  exact (hspelled none).2
    [.glyphHeight .equals 8, .preview .separate "", .verbose (.cluster 1), .verbose .long,
      .output .joined "a=b", .exactWidth] (by decide)

end BitmapFont.CommandLine
