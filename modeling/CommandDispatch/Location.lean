import CommandDispatch.Failure
import CommandDispatch.FileStore

/-! # Locations

Where a path that the host gave leads. A path is a text, of which every code point can be written as
bytes and none is NUL. A number stands for a stream that the process holds open; there are none that
a file could be opened from.
-/

namespace CommandDispatch

namespace FileStore

/-- The numbers that can stand for streams fit into 32 bits. -/
def isStreamNumber (n : Int) : Bool := -2147483648 ≤ n && n ≤ 2147483647

/-- The place of the file that a given path leads to, or the obstacle on the way. -/
def find (store : FileStore) (path : Value) : Except Failure (Except Obstacle Place) :=
  match path with
  | .text t =>
      match t.utf8? with
      | some bytes => if bytes.contains 0 then .error .pathWithNul else .ok (store.locate bytes)
      | none => .error .textNotEncodable
  | v =>
      match v.number? with
      | some n =>
          if !isStreamNumber n then .error .pathNotText
          else if n < 0 then .error .streamNegative
          else .ok (.error .missing)
      | none => .error .pathNotText

/-- The store with some bytes added to the file that a given path leads to. -/
def appendAt (store : FileStore) (path : Value) (bytes : Bytes) : Except Failure FileStore := do
  match ← store.find path with
  | .ok place => return store.append place bytes
  | .error obstacle => throw (.notOpened obstacle)

/-- The place and the content of the file that a given path leads to, if there is one. -/
def openFile (store : FileStore) (path : Value) : Except Failure (Option (Place × Bytes)) := do
  match ← store.find path with
  | .ok place => return (store.content? place).map (place, ·)
  | .error _ => return none

end FileStore

end CommandDispatch
