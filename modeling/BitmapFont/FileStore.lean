import BitmapFont.Text.Split

/-!
# Files

`FileAccess` is what a compilation needs of the world: reading a whole file and
creating or replacing one.  `FileStore` is a world of its own, a tree of files
and directories in memory, in which paths are followed name by name.
-/

namespace BitmapFont

inductive FileError where
  | notFound
  | notDirectory
  | isDirectory
  | nameTooLong
  | nulInName
  | other (message : String)
  deriving Repr, DecidableEq

def FileError.message : FileError → String
  | notFound => "No such file or directory (os error 2)"
  | notDirectory => "Not a directory (os error 20)"
  | isDirectory => "Is a directory (os error 21)"
  | nameTooLong => "File name too long (os error 36)"
  | nulInName => "file name contained an unexpected NUL byte"
  | other message => message

class FileAccess (m : Type → Type) where
  read : String → m (Except FileError (List UInt8))
  write : String → List UInt8 → m (Except FileError Unit)

abbrev Location := List String

inductive Node where
  | file (bytes : List UInt8)
  | directory
  deriving Repr, DecidableEq

structure FileStore where
  node : Location → Option Node

namespace FileStore

def maxNameBytes : Nat := 255

def maxPathBytes : Nat := 4095

def empty : FileStore :=
  ⟨fun _ => none⟩

/-- What is at a place; the root is always a directory. -/
def at? (store : FileStore) (place : Location) : Option Node :=
  match place with
  | [] => some .directory
  | _ => store.node place

def install (store : FileStore) (place : Location) (node : Node) : FileStore :=
  ⟨fun other => if other = place then some node else store.node other⟩

theorem at?_install_self
    (store : FileStore) {place : Location} (node : Node)
    (hplace : place ≠ []) :
    (store.install place node).at? place = some node := by
  cases place with
  | nil => exact absurd rfl hplace
  | cons name rest => simp [at?, install]

theorem at?_install_other
    (store : FileStore) {place other : Location} (node : Node)
    (hother : other ≠ place) :
    (store.install place node).at? other = store.at? other := by
  cases other with
  | nil => rfl
  | cons name rest => simp [at?, install, hother]

def names (path : List Char) : List String :=
  ((Text.splitAround '/' path).filter (!·.isEmpty)).map String.ofList

def enter (place : Location) (name : String) : Except FileError Location :=
  if name = "." then .ok place
  else if name = ".." then .ok place.tail
  else if maxNameBytes < name.utf8ByteSize then .error .nameTooLong
  else .ok (name :: place)

/-- Follows names from a place.  Every place on the way, the first and the last
included, has to be a directory. -/
def descend (store : FileStore) (place : Location) : List String → Except FileError Location
  | [] =>
      match store.at? place with
      | none => .error .notFound
      | some (.file _) => .error .notDirectory
      | some .directory => .ok place
  | name :: rest =>
      match store.at? place with
      | none => .error .notFound
      | some (.file _) => .error .notDirectory
      | some .directory =>
          match enter place name with
          | .error error => .error error
          | .ok inner => descend store inner rest

/-- Where a path leads: the directory that all its names but the last lead to,
and the last of them, which need not be there.  A path that ends in a slash asks
for a directory. -/
structure Target where
  directory : Location
  name : String
  slash : Bool
  deriving Repr, DecidableEq

/-- Follows a path from the root.  A path of slashes alone leads to the root
itself. -/
def resolve (store : FileStore) (path : String) : Except FileError Target :=
  let chars := path.toList
  if chars.contains '\x00' then .error .nulInName
  else if path.isEmpty then .error .notFound
  else if maxPathBytes < path.utf8ByteSize then .error .nameTooLong
  else
    let steps := names chars
    match store.descend [] steps.dropLast with
    | .error error => .error error
    | .ok directory => .ok ⟨directory, steps.getLast?.getD ".", chars.getLast? == some '/'⟩

def read (store : FileStore) (path : String) : Except FileError (List UInt8) := do
  let target ← store.resolve path
  let place ← enter target.directory target.name
  match store.at? place with
  | none => .error .notFound
  | some .directory => .error .isDirectory
  | some (.file bytes) => if target.slash then .error .notDirectory else .ok bytes

/-- The store in which the file that a path leads to holds just the given
bytes.  A path that ends in a slash is refused before its last name is looked
at. -/
def write (store : FileStore) (path : String) (bytes : List UInt8) :
    Except FileError FileStore := do
  let target ← store.resolve path
  if target.slash then
    .error .isDirectory
  else
    let place ← enter target.directory target.name
    match store.at? place with
    | some .directory => .error .isDirectory
    | _ => .ok (store.install place (.file bytes))

def find? (store : FileStore) (path : String) : Option Node := do
  let target ← (store.resolve path).toOption
  let place ← (enter target.directory target.name).toOption
  match store.at? place with
  | some (.file bytes) => if target.slash then none else some (.file bytes)
  | node => node

/-- Follows names from a place and makes a directory wherever there is
nothing. -/
def makeFrom (store : FileStore) (place : Location) : List String → Except FileError FileStore
  | [] => .ok store
  | name :: rest =>
      match enter place name with
      | .error error => .error error
      | .ok inner =>
          match store.at? inner with
          | some (.file _) => .error .notDirectory
          | some .directory => makeFrom store inner rest
          | none => makeFrom (store.install inner .directory) inner rest

def makeDirectory (store : FileStore) (path : String) : Except FileError FileStore :=
  store.makeFrom [] (names path.toList)

instance : FileAccess (StateM FileStore) where
  read path := do
    let store ← get
    pure (store.read path)
  write path bytes := do
    let store ← get
    match store.write path bytes with
    | .error error => pure (.error error)
    | .ok store => do
        set store
        pure (.ok ())

end FileStore

end BitmapFont
