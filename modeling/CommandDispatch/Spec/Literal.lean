import CommandDispatch.Spec.Basic
import CommandDispatch.Text.Quoted

/-! # Specs in diagnostics

How a diagnostic shows a declared spec: its type name and, in parentheses, all its fields in the
order of their declaration. The type name is the title of the kind in words joined with dashes.
-/

namespace CommandDispatch

/-- The kinds of specs that can be declared. -/
inductive SpecKind where
  | option
  | entry
  | scope
  | plainCommand
  | optionCommand
  | namespaceCommand
  deriving DecidableEq

namespace SpecKind

def title : SpecKind → Text
  | option => "Option"
  | entry => "NamespaceEntry"
  | scope => "Namespace"
  | plainCommand => "PlainCommand"
  | optionCommand => "OptionCommand"
  | namespaceCommand => "NamespaceCommand"

/-- The kinds of commands. -/
def isCommand : SpecKind → Bool
  | plainCommand | optionCommand | namespaceCommand => true
  | option | entry | scope => false

/-- The type name that messages use for a kind. -/
def typeName (kind : SpecKind) : Text := kind.title.hyphenated

end SpecKind

/-- What is shown where nothing was given. -/
def absentLiteral : Text := "None"

/-- How a diagnostic shows a value that may be absent. -/
def optionalLiteral {α : Type} (literal : α → Text) : Option α → Text
  | some a => literal a
  | none => absentLiteral

/-- How a diagnostic shows a fixed sequence; one of a single item keeps its comma. -/
def sequenceLiteral : List Text → Text
  | [item] => .concat ["(", item, ",)"]
  | items => .concat ["(", Text.joinWith ", " items, ")"]

/-- A type name with named fields in parentheses. -/
def fieldsLiteral (name : Text) (fields : List (Text × Text)) : Text :=
  .concat [name, "(", Text.joinWith ", " (fields.map fun f => .concat [f.1, "=", f.2]), ")"]

def Span.literal (s : Span) : Text :=
  .concat ["Span(", Text.decimal s.start, ", ", Text.decimal s.stop, ", ", s.style.literal, ")"]

def StyledText.literal (t : StyledText) : Text :=
  .concat ["<text ", t.plain.quoted, " [", Text.joinWith ", " (t.spans.map Span.literal), "] ",
    t.style.literal, ">"]

def Label.literal : Label → Text
  | .plain t => t.quoted
  | .styled t => t.literal

def OptionSpec.fieldLiterals (o : OptionSpec) : List (Text × Text) := [
  ("long_name", o.longName.quoted),
  ("short_name", optionalLiteral Text.quoted o.shortName),
  ("descr", optionalLiteral Label.literal o.descr),
  ("metavar", optionalLiteral Label.literal o.metavar),
  ("flags", o.flags.literal),
  ("max_count", Text.decimal o.maxCount),
  ("max_occurrences", Text.decimal o.maxOccurrences),
  ("max_values", Text.decimal o.maxValues)]

def OptionSpec.literal (o : OptionSpec) : Text :=
  fieldsLiteral SpecKind.option.typeName o.fieldLiterals

def OptionSpec.numbers (o : OptionSpec) : List Int :=
  [o.flags.bits, o.maxCount, o.maxOccurrences, o.maxValues]

/-- How a diagnostic shows the fields of an entry in front of its options. -/
def NamespaceEntry.fieldLiterals (e : NamespaceEntry) : List (Text × Text) := [
  ("name", e.name.quoted),
  ("descr", optionalLiteral Label.literal e.descr)]

def NamespaceEntry.literal (e : NamespaceEntry) : Text :=
  fieldsLiteral SpecKind.entry.typeName
    (e.fieldLiterals ++
      [(Text.ofString "options", sequenceLiteral (e.options.map OptionSpec.literal))])

def NamespaceEntry.numbers (e : NamespaceEntry) : List Int := e.options.flatMap OptionSpec.numbers

/-- How a diagnostic shows the fields of a namespace in front of its entries. -/
def Namespace.fieldLiterals (n : Namespace) : List (Text × Text) := [
  ("long_name", n.longName.quoted),
  ("short_name", optionalLiteral Text.quoted n.shortName)]

def Namespace.literal (n : Namespace) : Text :=
  fieldsLiteral SpecKind.scope.typeName
    (n.fieldLiterals ++
      [(Text.ofString "entries", sequenceLiteral (n.entries.map NamespaceEntry.literal))])

def Namespace.numbers (n : Namespace) : List Int := n.entries.flatMap NamespaceEntry.numbers

def Command.kind (c : Command) : SpecKind :=
  match c.body with
  | .plain => .plainCommand
  | .options .. => .optionCommand
  | .namespaced .. => .namespaceCommand

/-- How a diagnostic shows the fields that depend on the kind of a command. -/
def CommandBody.fieldLiterals : CommandBody → List (Text × Text)
  | .plain => []
  | .options schema parse =>
      [("options", sequenceLiteral (schema.map OptionSpec.literal)),
        ("options_parse", parse.literal)]
  | .namespaced scope parse =>
      [("namespace", scope.literal), ("namespace_opts_parse", parse.literal)]

def CommandBody.numbers : CommandBody → List Int
  | .plain => []
  | .options schema _ => schema.flatMap OptionSpec.numbers
  | .namespaced scope _ => scope.numbers

def Command.fieldLiterals (c : Command) : List (Text × Text) := [
  ("name", c.longName.quoted),
  ("short_name", optionalLiteral Text.quoted c.shortName),
  ("descr", optionalLiteral Label.literal c.descr),
  ("long_descr", optionalLiteral Label.literal c.longDescr),
  ("flags", c.flags.literal),
  ("handler", c.handler.literal),
  ("configure", optionalLiteral Callback.literal c.configure),
  ("help", optionalLiteral Callback.literal c.help)]

def Command.literal (c : Command) : Text :=
  fieldsLiteral c.kind.typeName (c.fieldLiterals ++ c.body.fieldLiterals)

namespace Spec

def kind : Spec → SpecKind
  | .option _ => .option
  | .entry _ => .entry
  | .scope _ => .scope
  | .command c => c.kind

def literal : Spec → Text
  | .option o => o.literal
  | .entry e => e.literal
  | .scope n => n.literal
  | .command c => c.literal

/-- The numbers that a diagnostic shows of a spec. -/
def numbers : Spec → List Int
  | .option o => o.numbers
  | .entry e => e.numbers
  | .scope n => n.numbers
  | .command c => c.flags.bits :: c.body.numbers

end Spec

end CommandDispatch
