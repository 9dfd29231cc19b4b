import BitmapFont.FileStore
import BitmapFont.Proofs.FallibleSteps

/-!
# File systems

What a program that reads and writes whole files may rely on.  A path may name a
file, and a file holds bytes unless there is none yet.  Reading changes nothing,
and neither does a write that fails; a write that succeeds replaces or creates the
one file that its path names.  Whether a read or a write succeeds is left open, and
so is whether two paths name the same file.

The store in memory is such a file system.  A write to it puts a file where no
directory is, so every path leads where it led before.
-/

namespace BitmapFont

class FileSystem (σ : Type) (Place : outParam Type) [FileAccess (StateM σ)] where
  read : σ → String → Except FileError (List UInt8)
  write : σ → String → List UInt8 → Except FileError σ
  /-- The file that a path names, whether it is there or not. -/
  named? : σ → String → Option Place
  contents? : σ → Place → Option (List UInt8)
  run_read : ∀ store path,
    (FileAccess.read path : StateM σ _).run store = (read store path, store)
  run_write : ∀ store path bytes,
    (FileAccess.write path bytes : StateM σ _).run store =
      match write store path bytes with
      | .ok after => (.ok (), after)
      | .error error => (.error error, store)
  contents?_of_read : ∀ {store path bytes},
    read store path = .ok bytes →
    ∃ place, named? store path = some place ∧ contents? store place = some bytes
  contents?_of_write : ∀ {store after path bytes},
    write store path bytes = .ok after →
    ∃ place, named? store path = some place ∧ contents? after place = some bytes ∧
      ∀ other, other ≠ place → contents? after other = contents? store other
  named?_of_write : ∀ {store after path bytes},
    write store path bytes = .ok after → named? after = named? store

/-! ## The store in memory -/

namespace FileStore

def named? (store : FileStore) (path : String) : Option Location := do
  let target ← (store.resolve path).toOption
  (enter target.directory target.name).toOption

def contents? (store : FileStore) (place : Location) : Option (List UInt8) :=
  match store.at? place with
  | some (.file bytes) => some bytes
  | _ => none

theorem named?_of_resolve
    {store : FileStore} {path : String} {target : Target} {place : Location}
    (hresolve : store.resolve path = .ok target)
    (henter : enter target.directory target.name = .ok place) :
    store.named? path = some place := by
  rw [named?, hresolve]
  exact congrArg Except.toOption henter

theorem contents?_of_file
    {store : FileStore} {place : Location} {bytes : List UInt8}
    (hfile : store.at? place = some (.file bytes)) : store.contents? place = some bytes := by
  rw [contents?, hfile]

theorem contents?_of_read
    {store : FileStore} {path : String} {bytes : List UInt8}
    (hread : store.read path = .ok bytes) :
    ∃ place, store.named? path = some place ∧ store.contents? place = some bytes := by
  obtain ⟨target, hresolve, hread⟩ := ok_of_bind_eq_ok hread
  obtain ⟨place, henter, hread⟩ := ok_of_bind_eq_ok hread
  refine ⟨place, named?_of_resolve hresolve henter, ?_⟩
  split at hread
  · contradiction
  · contradiction
  · rename_i found hfile
    split at hread
    · contradiction
    · obtain rfl := Except.ok.inj hread
      exact contents?_of_file hfile

/-- A write that succeeds puts a file where no directory is. -/
theorem eq_install_of_write
    {store after : FileStore} {path : String} {bytes : List UInt8}
    (hwrite : store.write path bytes = .ok after) :
    ∃ place, store.named? path = some place ∧ store.at? place ≠ some .directory ∧
      after = store.install place (.file bytes) := by
  obtain ⟨target, hresolve, hwrite⟩ := ok_of_bind_eq_ok hwrite
  split at hwrite
  · contradiction
  · obtain ⟨place, henter, hwrite⟩ := ok_of_bind_eq_ok hwrite
    refine ⟨place, named?_of_resolve hresolve henter, ?_⟩
    split at hwrite
    · contradiction
    · rename_i hfree
      exact ⟨fun hdirectory => hfree hdirectory, (Except.ok.inj hwrite).symm⟩

/-- The root is a directory, so a place that is none has a name. -/
theorem ne_root {store : FileStore} {place : Location}
    (hfree : store.at? place ≠ some .directory) : place ≠ [] := by
  rintro rfl
  exact hfree rfl

theorem contents?_of_write
    {store after : FileStore} {path : String} {bytes : List UInt8}
    (hwrite : store.write path bytes = .ok after) :
    ∃ place, store.named? path = some place ∧ after.contents? place = some bytes ∧
      ∀ other, other ≠ place → after.contents? other = store.contents? other := by
  obtain ⟨place, hnamed, hfree, rfl⟩ := eq_install_of_write hwrite
  refine ⟨place, hnamed, ?_, ?_⟩
  · exact contents?_of_file (at?_install_self store _ (ne_root hfree))
  · intro other hother
    rw [contents?, contents?, at?_install_other store _ hother]

/-! ## Where paths lead -/

/-- Two stores that have the same directories. -/
def SameDirectories (store other : FileStore) : Prop :=
  ∀ place, store.at? place = some .directory ↔ other.at? place = some .directory

theorem sameDirectories_of_write
    {store after : FileStore} {path : String} {bytes : List UInt8}
    (hwrite : store.write path bytes = .ok after) : SameDirectories after store := by
  obtain ⟨place, -, hfree, rfl⟩ := eq_install_of_write hwrite
  intro other
  by_cases hother : other = place
  · subst other
    rw [at?_install_self store _ (ne_root hfree)]
    simp [hfree]
  · rw [at?_install_other store _ hother]

theorem descend_of_not_directory
    {store : FileStore} {place : Location} (names : List String)
    (hplace : store.at? place ≠ some .directory) :
    (store.descend place names).toOption = none := by
  cases names with
  | nil =>
      unfold descend
      split <;> first | rfl | contradiction
  | cons name rest =>
      unfold descend
      split <;> first | rfl | contradiction

/-- Only directories are passed on the way along a path. -/
theorem descend_toOption_eq
    {store other : FileStore} (hsame : SameDirectories store other)
    (place : Location) (names : List String) :
    (store.descend place names).toOption = (other.descend place names).toOption := by
  induction names generalizing place with
  | nil =>
      by_cases hplace : store.at? place = some .directory
      · rw [descend, descend, hplace, (hsame place).mp hplace]
      · rw [descend_of_not_directory [] hplace,
          descend_of_not_directory [] (mt (hsame place).mpr hplace)]
  | cons name rest ih =>
      by_cases hplace : store.at? place = some .directory
      · rw [descend, descend, hplace, (hsame place).mp hplace]
        cases enter place name with
        | error error => rfl
        | ok inner => exact ih inner
      · rw [descend_of_not_directory _ hplace,
          descend_of_not_directory _ (mt (hsame place).mpr hplace)]

theorem resolve_toOption_eq
    {store other : FileStore} (hsame : SameDirectories store other) (path : String) :
    (store.resolve path).toOption = (other.resolve path).toOption := by
  have hdescend := descend_toOption_eq hsame [] (names path.toList).dropLast
  simp only [resolve]
  by_cases hnul : path.toList.contains '\x00' = true
  · rw [if_pos hnul, if_pos hnul]
  by_cases hempty : path.isEmpty = true
  · rw [if_neg hnul, if_neg hnul, if_pos hempty, if_pos hempty]
  by_cases hlong : maxPathBytes < path.utf8ByteSize
  · rw [if_neg hnul, if_neg hnul, if_neg hempty, if_neg hempty, if_pos hlong, if_pos hlong]
  rw [if_neg hnul, if_neg hnul, if_neg hempty, if_neg hempty, if_neg hlong, if_neg hlong]
  cases hstore : store.descend [] (names path.toList).dropLast with
  | error error =>
      cases hother : other.descend [] (names path.toList).dropLast with
      | error error => rfl
      | ok directory => simp [hstore, hother, Except.toOption] at hdescend
  | ok directory =>
      cases hother : other.descend [] (names path.toList).dropLast with
      | error error => simp [hstore, hother, Except.toOption] at hdescend
      | ok directory =>
          rw [hstore, hother] at hdescend
          obtain rfl := Option.some.inj hdescend
          rfl

theorem named?_of_write
    {store after : FileStore} {path : String} {bytes : List UInt8}
    (hwrite : store.write path bytes = .ok after) : after.named? = store.named? := by
  funext other
  rw [named?, named?, resolve_toOption_eq (sameDirectories_of_write hwrite)]

instance : FileSystem FileStore Location where
  read := read
  write := write
  named? := named?
  contents? := contents?
  run_read _ _ := rfl
  run_write store path bytes := by
    cases hwrite : store.write path bytes with
    | error error =>
        simp only [FileAccess.write, StateT.run_bind, StateT.run_get, pure_bind, hwrite]
        rfl
    | ok after =>
        simp only [FileAccess.write, StateT.run_bind, StateT.run_get, pure_bind, hwrite]
        rfl
  contents?_of_read := contents?_of_read
  contents?_of_write := contents?_of_write
  named?_of_write := named?_of_write

end FileStore

end BitmapFont
