import CommandDispatch.Spec.Declaration

/-! # Reading a spec back

The fields of a declared spec as values, in the order of their declaration. Declaring a spec again
from its fields gives the spec back.
-/

namespace CommandDispatch

def OptionSpec.fields (o : OptionSpec) : Fields := [
  ("long_name", .text o.longName),
  ("short_name", .ofText? o.shortName),
  ("descr", .ofLabel? o.descr),
  ("metavar", .ofLabel? o.metavar),
  ("flags", .int o.flags.bits),
  ("max_count", .int o.maxCount),
  ("max_occurrences", .int o.maxOccurrences),
  ("max_values", .int o.maxValues)]

def NamespaceEntry.fields (e : NamespaceEntry) : Fields := [
  ("name", .text e.name),
  ("descr", .ofLabel? e.descr),
  ("options", .list (e.options.map fun o => .spec (.option o)))]

def Namespace.fields (n : Namespace) : Fields := [
  ("long_name", .text n.longName),
  ("short_name", .ofText? n.shortName),
  ("entries", .list (n.entries.map fun e => .spec (.entry e)))]

def CommandBody.fields : CommandBody → Fields
  | .plain => []
  | .options schema parse =>
      [("options", .list (schema.map fun o => .spec (.option o))),
        ("options_parse", .callback parse)]
  | .namespaced scope parse =>
      [("namespace", .spec (.scope scope)), ("namespace_opts_parse", .callback parse)]

def Command.fields (c : Command) : Fields :=
  let shared : Fields := [
    ("name", .text c.longName),
    ("short_name", .ofText? c.shortName),
    ("descr", .ofLabel? c.descr),
    ("long_descr", .ofLabel? c.longDescr),
    ("flags", .int c.flags.bits),
    ("handler", .callback c.handler),
    ("configure", .ofCallback? c.configure),
    ("help", .ofCallback? c.help)]
  shared ++ c.body.fields

namespace Spec

/-- The fields of a spec, read back. -/
def fields : Spec → Fields
  | .option o => o.fields
  | .entry e => e.fields
  | .scope n => n.fields
  | .command c => c.fields

/-- A command under a second name. Only a text can be the name of a command; what is no text stands
in its record only. -/
def renamed (secondName : Option Value) : Spec → Spec
  | .command c => match secondName with
    | some (.text name) => .command { c with longName := name }
    | _ => .command c
  | s => s

end Spec

end CommandDispatch
