import CommandDispatch.Text.Basic

/-! # Callbacks

A callback is a piece of host code that the engine knows only by identity. What it answers is a
matter of the host that runs the engine.
-/

namespace CommandDispatch

/-- A callback: `slot` tells callbacks apart, and `id` is the name that records of its calls
show. -/
structure Callback where
  slot : Nat
  id : Text
  deriving DecidableEq

def Callback.literal (c : Callback) : Text := .concat ["<cb ", c.id, ">"]

end CommandDispatch
