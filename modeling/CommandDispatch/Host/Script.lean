import CommandDispatch.Host.Basic

/-! # Scripted callbacks

A host whose callbacks answer from scripts: each plays its replies in turn and then repeats the last
one.
-/

namespace CommandDispatch

/-- The replies of one callback, and what it adds to a file whenever it is called. -/
structure Script where
  replies : List (Except Failure Value)
  appended : Option (Text × Bytes) := none

namespace Script

/-- The reply to the call with the given number, counted from zero. -/
def reply (s : Script) (number : Nat) : Reply :=
  { appended := s.appended
    outcome := s.replies.getD (min number (s.replies.length - 1)) (.error .withoutReply) }

/-- The answers of callbacks with one script for each slot. -/
def answer (scripts : List Script) (c : Callback) (earlier : List Request) (_ : Request) : Reply :=
  (scripts.getD c.slot ⟨[], none⟩).reply earlier.length

end Script

end CommandDispatch
