import CommandDispatch.Place

/-! # Files

The part of a file system that journals and system logs need: directories that do not change, and
files that only grow.
-/

namespace CommandDispatch

/-- Directories and files by place. The start directory, those above it and the root are always
there. Of two files at one place the first counts. -/
structure FileStore where
  directories : List Place := []
  files : List (Place × Bytes) := []
  deriving DecidableEq

namespace FileStore

def isDirectory (store : FileStore) (place : Place) : Bool :=
  place.isAncestor || place = Place.root || store.directories.contains place

/-- The content of a file; a place without a file has none. -/
def content? (store : FileStore) (place : Place) : Option Bytes := store.files.lookup place

/-- The directory that is reached from another one by names. -/
def enter (store : FileStore) : (directory : Place) → List Bytes → Except Obstacle Place
  | directory, [] => .ok directory
  | directory, name :: rest =>
      let next := directory.child name
      if Place.longestName < name.length then .error .tooLong
      else if store.isDirectory next then enter store next rest
      else .error (if (store.content? next).isSome then .notDirectory else .missing)

/-- The place of a name in a directory, as that of a file, whether it is there yet or not. -/
def leaf (store : FileStore) (directory : Place) (name : Bytes) : Except Obstacle Place :=
  let place := directory.child name
  if Place.longestName < name.length then .error .tooLong
  else if name = Place.here ∨ name = Place.up ∨ store.isDirectory place then .error .directory
  else .ok place

/-- The place of the file that a path leads to, whether it is there yet or not. A path with a
separator at its end leads to no file, and the empty path leads nowhere. -/
def locate (store : FileStore) (path : Bytes) : Except Obstacle Place :=
  let names := Place.namesOf path
  if Place.longestPath < path.length then .error .tooLong
  else match names.getLast? with
    | none => .error (if path = [] then .missing else .directory)
    | some name => do
        let directory ← store.enter (Place.origin path) names.dropLast
        if path.getLast? = some Place.separator then throw .directory
        store.leaf directory name

/-- The files with some bytes added to the end of one, which is created if it is not there. -/
def appendTo (place : Place) (bytes : Bytes) : List (Place × Bytes) → List (Place × Bytes)
  | [] => [(place, bytes)]
  | (other, old) :: rest =>
      if other = place then (other, old ++ bytes) :: rest
      else (other, old) :: appendTo place bytes rest

/-- The store with some bytes added to the end of a file, which is created if it is not there. -/
def append (store : FileStore) (place : Place) (bytes : Bytes) : FileStore :=
  { store with files := appendTo place bytes store.files }

theorem lookup_appendTo_self (place : Place) (bytes : Bytes) (files : List (Place × Bytes)) :
    (appendTo place bytes files).lookup place = some ((files.lookup place).getD [] ++ bytes) := by
  induction files with
  | nil => simp [appendTo]
  | cons file rest ih =>
    obtain ⟨other, old⟩ := file
    by_cases hsame : other = place
    · subst hsame
      simp [appendTo]
    · have hdiffers : (place == other) = false := by simpa using Ne.symm hsame
      simp [appendTo, hsame, List.lookup_cons, hdiffers, ih]

theorem lookup_appendTo_of_ne {place other : Place} (hother : other ≠ place) (bytes : Bytes)
    (files : List (Place × Bytes)) :
    (appendTo place bytes files).lookup other = files.lookup other := by
  have hdiffers : (other == place) = false := by simpa using hother
  induction files with
  | nil => simp [appendTo, List.lookup_cons, hdiffers]
  | cons file rest ih =>
    obtain ⟨first, old⟩ := file
    by_cases hsame : first = place
    · subst hsame
      simp [appendTo, List.lookup_cons, hdiffers]
    · simp [appendTo, hsame, List.lookup_cons, ih]

/-- Appending adds the bytes to the end of the file. -/
@[simp] theorem content?_append_self (store : FileStore) (place : Place) (bytes : Bytes) :
    (store.append place bytes).content? place = some ((store.content? place).getD [] ++ bytes) :=
  lookup_appendTo_self place bytes store.files

/-- Appending leaves every other file as it is. -/
theorem content?_append_of_ne {place other : Place} (hother : other ≠ place) (store : FileStore)
    (bytes : Bytes) : (store.append place bytes).content? other = store.content? other :=
  lookup_appendTo_of_ne hother bytes store.files

/-- Appending changes no directory. -/
@[simp] theorem isDirectory_append (store : FileStore) (place other : Place) (bytes : Bytes) :
    (store.append place bytes).isDirectory other = store.isDirectory other := rfl

/-- Appending changes no way to a directory. -/
theorem enter_append_eq_ok_iff (store : FileStore) (place : Place) (bytes : Bytes)
    (directory target : Place) (names : List Bytes) :
    (store.append place bytes).enter directory names = .ok target ↔
      store.enter directory names = .ok target := by
  induction names generalizing directory with
  | nil => rfl
  | cons name rest ih =>
    by_cases hlong : Place.longestName < name.length
    · simp [enter, hlong]
    · by_cases hdir : store.isDirectory (directory.child name)
      · simpa [enter, hlong, hdir] using ih _
      · simp [enter, hlong, hdir]

/-- Appending changes no way to a file. -/
theorem locate_append_eq_ok_iff (store : FileStore) (place target : Place) (bytes path : Bytes) :
    (store.append place bytes).locate path = .ok target ↔ store.locate path = .ok target := by
  unfold locate
  by_cases hlong : Place.longestPath < path.length
  · simp [hlong]
  · cases hlast : (Place.namesOf path).getLast? with
    | none => simp [hlong, hlast]
    | some name =>
      have hiff := fun directory => enter_append_eq_ok_iff store place bytes (Place.origin path)
        directory (Place.namesOf path).dropLast
      simp only [hlong, hlast, if_false]
      cases hold : store.enter (Place.origin path) (Place.namesOf path).dropLast with
      | ok directory => rw [(hiff directory).2 hold]; rfl
      | error obstacle =>
        cases hnew : (store.append place bytes).enter (Place.origin path)
            (Place.namesOf path).dropLast with
        | ok directory => simp [(hiff directory).1 hnew] at hold
        | error other => exact ⟨nofun, nofun⟩

end FileStore

end CommandDispatch
