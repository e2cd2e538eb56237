import CommandDispatch.Text.Basic

/-! # Failed accesses to attributes

Why an attribute of a spec cannot be read, set or used.
-/

namespace CommandDispatch

/-- Why an access to an attribute fails. -/
inductive AttributeError where
  /-- Storage was to be read. -/
  | storageRead
  /-- Storage was to be set. -/
  | storageWrite
  /-- There is no such attribute. -/
  | absent
  /-- A field or a property was to be set. -/
  | readOnly
  /-- What was set in the place of an operation cannot be called. -/
  | notCallable
  /-- What was set in the place of something else is of no use there. -/
  | unfit
  deriving DecidableEq

/-- The wording of a failed access, for those that have one. -/
def AttributeError.message : AttributeError → Option Text
  | storageRead => some "internal storage is not accessible"
  | storageWrite => some "internal storage is read-only"
  | absent | readOnly | notCallable | unfit => none

end CommandDispatch
