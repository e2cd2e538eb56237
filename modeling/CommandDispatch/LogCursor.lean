import CommandDispatch.Location

/-! # System log cursors

A cursor stands at the end of the first of several system logs that can be read, and later reads
what was added since. It never changes a file.
-/

namespace CommandDispatch

/-- A cursor: the path of the log it was last placed in, the size of that log then, and the place of
the log that it holds open now, if any. -/
structure LogCursor where
  path : Option Value := none
  offset : Nat := 0
  held : Option Place := none

namespace LogCursor

/-- Places the cursor at the end of the first log that can be read. If there is none it stays as it
is. Fails at the first candidate that is no path at all. -/
def enter (cursor : LogCursor) : List Value → FileStore → Except Failure LogCursor
  | [], _ => .ok cursor
  | path :: rest, store => do
      match ← store.openFile path with
      | some (place, content) => return ⟨some path, content.length, some place⟩
      | none => enter cursor rest store

/-- Closes the log that the cursor holds. -/
def exit (cursor : LogCursor) : LogCursor := { cursor with held := none }

/-- The bytes of the held log from the place of the cursor on. -/
def read (cursor : LogCursor) (store : FileStore) : Bytes :=
  match cursor.held with
  | some place => ((store.content? place).getD []).drop cursor.offset
  | none => []

end LogCursor

end CommandDispatch
