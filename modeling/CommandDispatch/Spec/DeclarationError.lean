import CommandDispatch.Value

/-! # Why a declaration is refused

One constructor for each cause. Causes that concern the shape of the declaration itself, such as an
unknown field, have no message of their own.
-/

namespace CommandDispatch

/-- A cause for refusing a declaration. `owner` is the kind that was being declared. -/
inductive DeclarationError where
  /-- A field that the kind does not have. -/
  | unknownField (name : Text)
  | missingField (name : Text)
  | flagsNotInteger
  /-- A table or a list of paths that cannot be walked through. -/
  | notIterable
  | abstractCommand
  | nameNotText (owner : SpecKind) (field : Text)
  | nameEmpty (owner : SpecKind) (field : Text)
  /-- A name with a wrong first letter or a code point that no name may hold. -/
  | nameMalformed (owner : SpecKind) (field name : Text)
  | shortNameNotText (owner : SpecKind)
  /-- A short name that is not a single letter. -/
  | shortNameMalformed (owner : SpecKind) (name : Text)
  | labelNotText (owner : SpecKind) (field : Text)
  | labelEmpty (owner : SpecKind) (field : Text)
  | countNotInteger (owner : SpecKind) (field : Text)
  | countNegative (owner : SpecKind) (field : Text)
  | optionsNotIterable (owner : SpecKind)
  /-- Something other than an option among the options. -/
  | optionsMixed (owner : SpecKind)
  | optionRepeated (owner : SpecKind) (name : Text)
  | entriesNotIterable
  | entriesMissing
  /-- Something other than an entry among the entries. -/
  | entriesMixed
  | entryRepeated (name : Text)
  /-- Something other than a namespace where one must be. -/
  | notNamespace
  | notCallable (owner : SpecKind) (field : Text)
  /-- Fields that the kind of command does not have. -/
  | unexpectedFields (owner : SpecKind) (names : List Text)
  | appNameEmpty
  | appWithoutCommands
  /-- Something other than a command in the command table. -/
  | appCommandsMixed
  /-- A privilege probe that is no callback. -/
  | appProbeNotCallable
  deriving DecidableEq

/-- The wording of a cause, for those that have one. -/
def DeclarationError.message : DeclarationError → Option Text
  | unknownField _ | missingField _ | flagsNotInteger | notIterable => none
  | abstractCommand => some "type 'command' is abstract; use one of its variants"
  | nameNotText owner field => some (.concat [owner.typeName, " ", field, " must be a string"])
  | nameEmpty owner field => some (.concat [owner.typeName, " ", field, " cannot be empty"])
  | nameMalformed owner field name =>
      some (.concat [owner.typeName, " ", field, " must start with a letter (", name.quoted, ")"])
  | shortNameNotText owner =>
      some (.concat [owner.typeName, " short name must be a string or None"])
  | shortNameMalformed owner name =>
      some (.concat [owner.typeName, " short name must be a single letter (", name.quoted, ")"])
  | labelNotText owner field =>
      some (.concat [owner.typeName, " ", field.quoted, " must be a string"])
  | labelEmpty owner field =>
      some (.concat [owner.typeName, " ", field.quoted, " cannot be empty"])
  | countNotInteger owner field =>
      some (.concat [owner.typeName, " ", field, " must be an integer"])
  | countNegative owner field =>
      some (.concat [owner.typeName, " ", field, " cannot be negative"])
  | optionsNotIterable owner =>
      some (.concat [owner.typeName, " options must be an iterable of options"])
  | optionsMixed owner => some (.concat [owner.typeName, " options must be option instances"])
  | optionRepeated owner name =>
      some (.concat [owner.typeName, " option ", name.quoted, " is declared twice"])
  | entriesNotIterable =>
      some (.concat [SpecKind.scope.typeName, " entries must be an iterable of entries"])
  | entriesMissing => some (.concat [SpecKind.scope.typeName, " must declare at least one entry"])
  | entriesMixed =>
      some (.concat [SpecKind.scope.typeName, " entries must be ", SpecKind.entry.typeName,
        " instances"])
  | entryRepeated name =>
      some (.concat [SpecKind.scope.typeName, " entry ", name.quoted, " is declared twice"])
  | notNamespace =>
      some (.concat [SpecKind.namespaceCommand.typeName, " namespace must be a namespace instance"])
  | notCallable owner field => some (.concat [owner.typeName, " ", field, " must be callable"])
  | unexpectedFields owner names =>
      some (.concat [owner.typeName, " got unexpected fields: ", Text.joinWith ", " names])
  | appNameEmpty => some "app name must be a non-empty string"
  | appWithoutCommands => some "app must declare at least one command"
  | appCommandsMixed => some "app commands must be command instances"
  | appProbeNotCallable => some "app privileged probe must be callable"

end CommandDispatch
