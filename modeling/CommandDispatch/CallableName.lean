import CommandDispatch.Value

/-! # Names of callables

A callable can be given a name, which then is both its short and its full name.
-/

namespace CommandDispatch

/-- The short and the full name of a callable that was given a name, which must be a text. -/
def callableNames? : Value → Option (Text × Text)
  | .text t => some (t, t)
  | _ => none

/-- Why a callable cannot be given a name. -/
def callableNameMessage : Text := "callable name must be a string"

end CommandDispatch
