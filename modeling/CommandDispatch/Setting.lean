import CommandDispatch.Value

/-! # Settings that may be left out

A setting is unset or was given a value; null is a value like any other. An unset setting is not
true, and it has a type of its own, which takes part in no unions except with null.
-/

namespace CommandDispatch

/-- A setting: unset, or given. -/
inductive Setting where
  | unset
  | given (v : Value)

namespace Setting

/-- The value of a setting, or a default when it is unset. -/
def orDefault (default : Value) : Setting → Value
  | unset => default
  | given v => v

/-- An unset setting is not true. -/
def isTrue : Setting → Bool
  | unset => false
  | given v => v.isTrue

def literal : Setting → Text
  | unset => "Unset"
  | given v => v.literal

/-- A setting that may hold numbers only: unset, or given a number. -/
def isNumberOrUnset : Setting → Bool
  | unset => true
  | given v => v.number?.isSome

/-- The type of what is unset. -/
def typeLiteral : Text := "sedcli.utils.UnsetType"

/-- The union of the type of what is unset with a value; only null can stand for a type. -/
def unionWith? : Value → Option Text
  | .null => some (.concat [typeLiteral, " | ", absentLiteral])
  | _ => none

/-- The union of a value with the type of what is unset. -/
def unionOf? : Value → Option Text
  | .null => some (.concat [absentLiteral, " | ", typeLiteral])
  | _ => none

/-- Why the type of what is unset cannot be extended. -/
def sealedMessage : Text := "type 'UnsetType' is not an acceptable base type"

end Setting

end CommandDispatch
