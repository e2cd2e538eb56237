import CommandDispatch.Spec.Fields

/-! # Attributes of specs

What the name of an attribute stands for in a record of a spec. Names that start with a dash belong
to its storage, which holds the fields; properties follow from the fields; a few names stand for the
record itself; operations can be replaced; and all other names are free.
-/

namespace CommandDispatch

/-- What follows from the fields of a spec. -/
inductive SpecProperty where
  | required
  | optional
  | hidden
  | takesValues
  | label
  | superuserRequired
  | isVersion
  deriving DecidableEq

namespace SpecProperty

def name : SpecProperty → Text
  | required => "required"
  | optional => "optional"
  | hidden => "hidden"
  | takesValues => "takes_values"
  | label => "label"
  | superuserRequired => "su_required"
  | isVersion => "is_version"

/-- The properties of a spec: only options and commands have any. -/
def all : Spec → List SpecProperty
  | .option _ => [required, optional, hidden, takesValues, label]
  | .command _ => [hidden, superuserRequired, isVersion]
  | .entry _ | .scope _ => []

end SpecProperty

/-- The operations of specs, which can be replaced by setting their names. -/
inductive SpecOperation where
  /-- Hides a command. -/
  | hideCommand
  /-- Opens the storage of a spec for a change. -/
  | openStorage
  /-- Lists the fields of a spec for a diagnostic. -/
  | listFields
  /-- Shows a spec in a diagnostic. A replacement is never asked. -/
  | showSpec
  /-- Guards the reading of attributes. A replacement is never asked. -/
  | guardReading
  /-- Guards the setting of attributes. A replacement is never asked. -/
  | guardSetting
  deriving DecidableEq

namespace SpecOperation

def name : SpecOperation → Text
  | hideCommand => "hide"
  | openStorage => "_rebuild"
  | listFields => "__rich_repr__"
  | showSpec => "__repr__"
  | guardReading => "__getattribute__"
  | guardSetting => "__setattr__"

/-- How a diagnostic names an operation. -/
def title : SpecOperation → Text
  | hideCommand => "Command.hide"
  | openStorage => "StorageGuard._rebuild"
  | listFields => "__rich_repr__"
  | showSpec => "__repr__"
  | guardReading => "StorageGuard.__getattribute__"
  | guardSetting => "StorageGuard.__setattr__"

/-- The operations that all specs have. -/
def shared : List SpecOperation := [openStorage, listFields, showSpec, guardReading, guardSetting]

/-- The operations of a spec; only commands can be hidden. -/
def all : Spec → List SpecOperation
  | .command _ => hideCommand :: shared
  | _ => shared

end SpecOperation

/-- What the name of an attribute stands for. -/
inductive SpecAttribute where
  /-- A place in storage. -/
  | storage
  | field
  | property (p : SpecProperty)
  /-- Whether storage is open for changes. -/
  | permission
  | kind
  /-- All that the record holds. -/
  | contents
  /-- What watches the record; nothing ever does. -/
  | watchers
  /-- Anything else. -/
  | free
  deriving DecidableEq

namespace SpecAttribute

/-- Names of storage start with a dash. -/
def isStorageName (name : Text) : Bool := name.head? = some CodePoint.dash

/-- The place of a field in storage. -/
def storageName (field : Text) : Text := CodePoint.dash :: field

/-- The names that stand for a record itself. -/
def reserved : List (Text × SpecAttribute) := [
  ("_StorageGuard__building", permission),
  ("__class__", kind),
  ("__dict__", contents),
  ("__weakref__", watchers)]

/-- What a name stands for in a record of a spec. -/
def ofName (s : Spec) (name : Text) : SpecAttribute :=
  if isStorageName name then storage
  else if (s.fields.lookup name).isSome then field
  else match (SpecProperty.all s).find? fun p => p.name = name with
    | some p => property p
    | none => (reserved.lookup name).getD free

end SpecAttribute

end CommandDispatch
