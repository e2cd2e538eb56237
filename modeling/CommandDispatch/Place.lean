import CommandDispatch.Text.Utf8

/-! # Places

A path leads from directory to directory and last to a file. Its names stand between separators;
`.` stays where it is, and `..` leads up. A path that begins with a separator leads from the root.
The place at its end tells files apart: several paths may lead to one place.
-/

namespace CommandDispatch

/-- A place in the tree of directories: the names on the way to it from the start directory. A
leading `..` stands for each directory that the place lies above the start directory, and a leading
separator for the root. -/
abbrev Place := List Bytes

namespace Place

def separator : UInt8 := 0x2F

/-- The name by which every directory has itself. -/
def here : Bytes := [0x2E]

/-- The name by which every directory has the one above it. -/
def up : Bytes := [0x2E, 0x2E]

/-- The greatest number of bytes in a name. -/
def longestName : Nat := 255

/-- The greatest number of bytes in a path. -/
def longestPath : Nat := 4095

/-- The names of a path, in their order. -/
def namesOf (path : Bytes) : List Bytes := (path.splitOn separator).filter (· ≠ [])

/-- The root, which no directory lies above. -/
def root : Place := [[separator]]

/-- Where a path starts: in the root, if it begins with a separator, else in the start directory. -/
def origin (path : Bytes) : Place := if path.head? = some separator then root else []

/-- The start directory, or a directory above it. -/
def isAncestor (place : Place) : Bool := place.all (· = up)

/-- The place of a name in a directory. -/
def child (place : Place) (name : Bytes) : Place :=
  if name = here then place
  else if name ≠ up then place ++ [name]
  else if place = root then root
  else if place.isAncestor then place ++ [up]
  else place.dropLast

end Place

/-- What keeps a file from being opened. -/
inductive Obstacle where
  /-- A directory on the way is not there, or the path is empty. -/
  | missing
  /-- A name on the way belongs to a file. -/
  | notDirectory
  /-- The path ends at a directory. -/
  | directory
  /-- A name or the whole path has too many bytes. -/
  | tooLong
  deriving DecidableEq

end CommandDispatch
