import CommandDispatch.Outline
import CommandDispatch.Value

/-! # Outlines of values and specs

How a console lays out what is no text: lists and records as groups of their items, specs as groups
of their fields under the title of their kind, and everything else as the word that a diagnostic
shows.
-/

namespace CommandDispatch

open Outline

def OptionSpec.outline (o : OptionSpec) : Outline := titled SpecKind.option.title o.fieldLiterals []

def NamespaceEntry.outline (e : NamespaceEntry) : Outline :=
  titled SpecKind.entry.title e.fieldLiterals
    [("options", sequence (e.options.map OptionSpec.outline))]

def Namespace.outline (n : Namespace) : Outline :=
  titled SpecKind.scope.title n.fieldLiterals
    [("entries", sequence (n.entries.map NamespaceEntry.outline))]

/-- The outlines of the fields that depend on the kind of a command. -/
def CommandBody.outlines : CommandBody → List (Text × Outline)
  | .plain => []
  | .options schema parse =>
      [("options", sequence (schema.map OptionSpec.outline)), ("options_parse", word parse.literal)]
  | .namespaced scope parse =>
      [("namespace", scope.outline), ("namespace_opts_parse", word parse.literal)]

def Command.outline (c : Command) : Outline :=
  titled c.kind.title c.fieldLiterals c.body.outlines

def Spec.outline : Spec → Outline
  | .option o => o.outline
  | .entry e => e.outline
  | .scope n => n.outline
  | .command c => c.outline

namespace Value

mutual

def outline : Value → Outline
  | .list items => group "[" "]" false (itemOutlines items)
  | .record fields => group "\x7b" "\x7d" false (fieldOutlines fields)
  | .spec s => s.outline
  | v => word v.literal

/-- The outlines of the items of a list; they have no labels. -/
def itemOutlines : List Value → List (Text × Outline)
  | [] => []
  | v :: rest => ([], outline v) :: itemOutlines rest

/-- The outlines of the fields of a record under their names. -/
def fieldOutlines : List (Text × Value) → List (Text × Outline)
  | [] => []
  | (name, v) :: rest => (.concat [name.quoted, ": "], outline v) :: fieldOutlines rest

end

end Value

end CommandDispatch
