import CommandDispatch.Callback
import CommandDispatch.Message
import CommandDispatch.Spec.Flags

/-! # Options, namespaces and commands

The declared side of a tool. An option is a switch that may take values; a namespace is a switch
that selects one of its entries, each with options of its own; a command is a switch with a handler,
and one of three kinds: without options, with options, or with a namespace.
-/

namespace CommandDispatch

/-- The spellings of a switch: two dashes and the long name, or one dash and the short name. -/
structure Switch where
  longName : Text
  shortName : Option Text
  deriving DecidableEq

/-- A label for display: a plain text or a styled one. -/
inductive Label where
  | plain (t : Text)
  | styled (t : StyledText)
  deriving DecidableEq

namespace Label

/-- What is shown of a label. -/
def display : Label → Text
  | .plain t => t
  | .styled t => t.plain

/-- A label as a piece of a message: a plain one takes the given style, a styled one keeps its
own. -/
def piece (style : Style) : Label → StyledText
  | .plain t => .uniform t style
  | .styled t => t

/-- A label without text; only a styled one can be. -/
def isEmpty (l : Label) : Bool := l.display.isEmpty

end Label

/-- An option. Its value label is present exactly when it takes values. A limit of zero is none. -/
structure OptionSpec extends Switch where
  descr : Option Label
  metavar : Option Label
  flags : OptionFlags
  maxCount : Nat
  maxOccurrences : Nat
  maxValues : Nat
  deriving DecidableEq

namespace OptionSpec

def required (o : OptionSpec) : Bool := o.flags.required

def optional (o : OptionSpec) : Bool := o.flags.optional

def hidden (o : OptionSpec) : Bool := o.flags.hidden

/-- An option takes values exactly when it has a label for them. -/
def takesValues (o : OptionSpec) : Bool := o.metavar.isSome

/-- Both spellings of the option, as error messages name it. -/
def label (o : OptionSpec) : Text :=
  match o.shortName with
  | some short => .concat ["-", short, "/--", o.longName]
  | none => .concat ["--", o.longName]

end OptionSpec

/-- An entry of a namespace, selected by its name alone, with options of its own. -/
structure NamespaceEntry where
  name : Text
  descr : Option Label
  options : List OptionSpec
  deriving DecidableEq

/-- A namespace: the switch that announces an entry name, and the entries. -/
structure Namespace extends Switch where
  entries : List NamespaceEntry
  deriving DecidableEq

/-- What a command reads after its own switch: nothing, options for a callback, or an entry of a
namespace and its options. -/
inductive CommandBody where
  | plain
  | options (schema : List OptionSpec) (parse : Callback)
  | namespaced (scope : Namespace) (parse : Callback)
  deriving DecidableEq

/-- A command; its long name is the name of the command. -/
structure Command extends Switch where
  descr : Option Label
  longDescr : Option Label
  flags : CommandFlags
  handler : Callback
  configure : Option Callback
  help : Option Callback
  body : CommandBody
  deriving DecidableEq

namespace Command

def hidden (c : Command) : Bool := c.flags.hidden

def superuserRequired (c : Command) : Bool := c.flags.superuserRequired

/-- The version command, under either of its names, leaves no trace in the journal. -/
def isVersion (c : Command) : Bool :=
  c.longName = Text.ofString "version" || c.shortName = some (Text.ofString "V")

/-- The command, left out of help listings from now on. -/
def hide (c : Command) : Command := { c with flags := c.flags.hide }

end Command

/-- Anything that can be declared. -/
inductive Spec where
  | option (o : OptionSpec)
  | entry (e : NamespaceEntry)
  | scope (n : Namespace)
  | command (c : Command)
  deriving DecidableEq

end CommandDispatch
