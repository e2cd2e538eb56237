import CommandDispatch.Setting
import CommandDispatch.Spec.DeclarationError
import CommandDispatch.Text.Blank
import CommandDispatch.Text.WordCharacter

/-! # Declaring specs

A declaration is a list of named fields with arbitrary values. Declaring checks the fields in a
fixed order, brings names and labels into their stripped form, and yields either the spec or the
first cause for refusing it.
-/

namespace CommandDispatch

/-- Fields by name, as a declaration gives them. -/
abbrev Fields := List (Text × Value)

namespace Fields

/-- The value of a field, if it is there. -/
def get? (fields : Fields) (name : Text) : Option Value := fields.lookup name

/-- A field as a setting: unset when it is not there. -/
def setting (fields : Fields) (name : Text) : Setting :=
  match fields.get? name with
  | some v => .given v
  | none => .unset

/-- The value of a field, or a default for an absent one. -/
def getD (fields : Fields) (name : Text) (default : Value) : Value :=
  (fields.setting name).orDefault default

/-- The value of a field; an absent one counts as null. -/
def get (fields : Fields) (name : Text) : Value := getD fields name .null

/-- Refuses the first field whose name is not among the known ones. -/
def only (fields : Fields) (known : List Text) : Except DeclarationError Unit :=
  match fields.find? fun f => !known.contains f.1 with
  | some f => .error (.unknownField f.1)
  | none => .ok ()

/-- The value of a field that must be there. -/
def require (fields : Fields) (name : Text) : Except DeclarationError Value :=
  match fields.get? name with
  | some v => .ok v
  | none => .error (.missingField name)

end Fields

namespace Declaration

/-- A name starts with an ASCII letter and goes on with word characters and dashes. -/
def isName : Text → Bool
  | [] => false
  | c :: rest => c.isAsciiLetter && rest.all fun c => c.isWordCharacter || c = CodePoint.dash

/-- A short name is a single ASCII letter. -/
def isShortName : Text → Bool
  | [c] => c.isAsciiLetter
  | _ => false

/-- Reads a name: a text that is one after stripping. -/
def readName (owner : SpecKind) (field : Text) : Value → Except DeclarationError Text
  | .text t =>
      let name := t.strip
      if name = [] then .error (.nameEmpty owner field)
      else if isName name then .ok name
      else .error (.nameMalformed owner field name)
  | _ => .error (.nameNotText owner field)

/-- Reads a short name, which may be absent and is not stripped. -/
def readShortName (owner : SpecKind) : Value → Except DeclarationError (Option Text)
  | .null => .ok none
  | .text t => if isShortName t then .ok (some t) else .error (.shortNameMalformed owner t)
  | _ => .error (.shortNameNotText owner)

/-- Reads a label, which may be absent. A plain one is stripped and must not be empty; a styled one
stays as it is. -/
def readLabel (owner : SpecKind) (field : Text) : Value → Except DeclarationError (Option Label)
  | .null => .ok none
  | .text t =>
      if t.strip = [] then .error (.labelEmpty owner field) else .ok (some (.plain t.strip))
  | .styled t => .ok (some (.styled t))
  | _ => .error (.labelNotText owner field)

/-- Reads a count: an integer, not a truth value, that is not negative. -/
def readCount (owner : SpecKind) (field : Text) : Value → Except DeclarationError Nat
  | .int (.ofNat n) => .ok n
  | .int (.negSucc _) => .error (.countNegative owner field)
  | _ => .error (.countNotInteger owner field)

/-- Reads a flag word: any number. -/
def readFlags (v : Value) : Except DeclarationError Int :=
  match v.number? with
  | some n => .ok n
  | none => .error .flagsNotInteger

def readCallback (owner : SpecKind) (field : Text) (v : Value) : Except DeclarationError Callback :=
  match v.callback? with
  | some c => .ok c
  | none => .error (.notCallable owner field)

/-- Reads a callback that may be absent. -/
def readCallback? (owner : SpecKind) (field : Text) :
    Value → Except DeclarationError (Option Callback)
  | .null => .ok none
  | v => some <$> readCallback owner field v

/-- Reads options one after the other; `seen` holds the long names met so far, none of which may
come again. -/
def readOptionItems (owner : SpecKind) :
    (seen : List Text) → List Value → Except DeclarationError (List OptionSpec)
  | _, [] => .ok []
  | seen, .spec (.option o) :: rest => do
      if seen.contains o.longName then throw (.optionRepeated owner o.longName)
      let others ← readOptionItems owner (o.longName :: seen) rest
      return o :: others
  | _, _ :: _ => .error (.optionsMixed owner)

/-- Reads a schema: options with different long names. -/
def readOptions (owner : SpecKind) (v : Value) : Except DeclarationError (List OptionSpec) :=
  match v.items? with
  | some items => readOptionItems owner [] items
  | none => .error (.optionsNotIterable owner)

/-- Reads entries one after the other; `seen` holds the names met so far, none of which may come
again. -/
def readEntryItems :
    (seen : List Text) → List Value → Except DeclarationError (List NamespaceEntry)
  | _, [] => .ok []
  | seen, .spec (.entry e) :: rest => do
      if seen.contains e.name then throw (.entryRepeated e.name)
      let others ← readEntryItems (e.name :: seen) rest
      return e :: others
  | _, _ :: _ => .error .entriesMixed

/-- Reads the entries of a namespace: at least one, with different names. -/
def readEntries (v : Value) : Except DeclarationError (List NamespaceEntry) :=
  match v.items? with
  | some [] => .error .entriesMissing
  | some items => readEntryItems [] items
  | none => .error .entriesNotIterable

end Declaration

open Declaration

def OptionSpec.fieldNames : List Text :=
  ["long_name", "short_name", "descr", "metavar", "flags", "max_count", "max_occurrences",
    "max_values"]

/-- Declares an option. The limits on occurrences and values follow the common limit when they are
not given. -/
def OptionSpec.declare (fields : Fields) : Except DeclarationError OptionSpec := do
  fields.only fieldNames
  let longName ← readName .option "long name" (fields.get "long_name")
  let shortName ← readShortName .option (fields.get "short_name")
  let descr ← readLabel .option "descr" (fields.get "descr")
  let metavar ← readLabel .option "metavar" (fields.get "metavar")
  let maxCount ← readCount .option "max count" (fields.getD "max_count" (.int 0))
  let common := Value.int maxCount
  let maxOccurrences ← readCount .option "max occurrences" (fields.getD "max_occurrences" common)
  let maxValues ← readCount .option "max values" (fields.getD "max_values" common)
  let flags ← readFlags (fields.getD "flags" (.int 0))
  return {
    longName, shortName, descr, metavar
    flags := .ofInt flags
    maxCount, maxOccurrences, maxValues }

def NamespaceEntry.fieldNames : List Text := ["name", "descr", "options"]

/-- Declares an entry of a namespace. -/
def NamespaceEntry.declare (fields : Fields) : Except DeclarationError NamespaceEntry := do
  fields.only fieldNames
  let name ← readName .entry "name" (fields.get "name")
  let descr ← readLabel .entry "descr" (fields.get "descr")
  let options ← readOptions .entry (fields.getD "options" (.list []))
  return { name, descr, options }

def Namespace.fieldNames : List Text := ["long_name", "short_name", "entries"]

def Namespace.declare (fields : Fields) : Except DeclarationError Namespace := do
  fields.only fieldNames
  let longName ← readName .scope "long name" (fields.get "long_name")
  let shortName ← readShortName .scope (fields.get "short_name")
  let entries ← readEntries (fields.getD "entries" (.list []))
  return { longName, shortName, entries }

inductive CommandKind where
  | plain
  | options
  | namespaced
  deriving DecidableEq

namespace CommandKind

/-- The kind of spec that a kind of command is. -/
def specKind : CommandKind → SpecKind
  | plain => .plainCommand
  | options => .optionCommand
  | namespaced => .namespaceCommand

/-- The fields that only one kind of command has. -/
def ownFieldNames : CommandKind → List Text
  | plain => []
  | options => ["options", "options_parse"]
  | namespaced => ["namespace", "namespace_opts_parse"]

end CommandKind

/-- The kind of a command body. -/
def CommandBody.kind : CommandBody → CommandKind
  | .plain => .plain
  | .options .. => .options
  | .namespaced .. => .namespaced

/-- Reads the fields that only one kind of command has. Both must be there before either is
checked. -/
def CommandBody.declare (fields : Fields) : CommandKind → Except DeclarationError CommandBody
  | .plain => .ok .plain
  | .options => do
      let options ← fields.require "options"
      let parse ← fields.require "options_parse"
      let schema ← readOptions .optionCommand options
      return .options schema (← readCallback .optionCommand "options_parse" parse)
  | .namespaced => do
      let scope ← fields.require "namespace"
      let parse ← fields.require "namespace_opts_parse"
      match scope with
      | .spec (.scope scope) =>
          return .namespaced scope
            (← readCallback .namespaceCommand "namespace_opts_parse" parse)
      | _ => throw .notNamespace

def Command.sharedFieldNames : List Text :=
  ["name", "short_name", "descr", "long_descr", "flags", "handler", "configure", "help"]

/-- Declares a command of a kind. Fields that the kind does not have are refused last, in
ascending order. -/
def Command.declare (kind : CommandKind) (fields : Fields) : Except DeclarationError Command := do
  let owner := kind.specKind
  let body ← CommandBody.declare fields kind
  let longName ← readName owner "name" (fields.get "name")
  let shortName ← readShortName owner (fields.get "short_name")
  let descr ← readLabel owner "descr" (fields.get "descr")
  let longDescr ← readLabel owner "long_descr" (fields.get "long_descr")
  let flags ← readFlags (fields.getD "flags" (.int 0))
  let handler ← readCallback owner "handler" (fields.get "handler")
  let configure ← readCallback? owner "configure" (fields.get "configure")
  let help ← readCallback? owner "help" (fields.get "help")
  let known := sharedFieldNames ++ kind.ownFieldNames
  let unexpected := (fields.map (·.1)).filter fun name => !known.contains name
  if unexpected ≠ [] then
    throw (.unexpectedFields owner (unexpected.mergeSort Text.before))
  return {
    longName, shortName, descr, longDescr
    flags := .ofInt flags
    handler, configure, help, body }

def Spec.declare (kind : SpecKind) (fields : Fields) : Except DeclarationError Spec :=
  match kind with
  | .option => .option <$> OptionSpec.declare fields
  | .entry => .entry <$> NamespaceEntry.declare fields
  | .scope => .scope <$> Namespace.declare fields
  | .plainCommand => .command <$> Command.declare .plain fields
  | .optionCommand => .command <$> Command.declare .options fields
  | .namespaceCommand => .command <$> Command.declare .namespaced fields

/-- A command of no kind cannot be declared, whatever its fields. -/
def Command.declareAbstract (_ : Fields) : Except DeclarationError Spec :=
  .error .abstractCommand

end CommandDispatch
