import CommandDispatch.App

/-! # Help pages

The top-level page, and the pages of commands. Hidden commands and hidden options are left out of
listings and usage lines. A page is a list of messages, which are reported one after the other.
-/

namespace CommandDispatch

namespace Help

def palette : Palette := .ofTexts [
  ("title", "bold"),
  ("usage-label", "bold"),
  ("program-name", "bold"),
  ("command-name", "bold cyan"),
  ("option-name", "cyan"),
  ("metavar", "yellow"),
  ("entry-name", "bold cyan"),
  ("description", ""),
  ("footer", "dim")]

/-- What a page is written with: the program label, and a style for each key. -/
structure Look where
  program : Value
  style : Text → Style

/-- The look of an application's pages on a host. -/
def Look.of (app : App) (host : Host) : Except Failure Look := do
  return ⟨app.program host, (← host.palette palette).styleOf⟩

/-- The margin of listings and examples. -/
def margin : Text := "   "

/-- A piece without a style. -/
def bare (t : Text) : StyledText := .uniform t .none

/-- A label as a piece; an absent one is empty. -/
def labelPiece (style : Style) : Option Label → StyledText
  | some l => l.piece style
  | none => .uniform [] style

/-- A short name with its dash; an absent one is empty. -/
def shortForm : Option Text → Text
  | some short => .concat ["-", short]
  | none => []

/-- Both spellings of a switch, the short one in parentheses. -/
def bracketed (s : Switch) : Text :=
  match s.shortName with
  | some short => .concat ["--", s.longName, " (-", short, ")"]
  | none => .concat ["--", s.longName]

/-- The label of an option's value, in brackets when the value may be left out. -/
def valueForm (o : OptionSpec) (metavar : Label) : Text :=
  if o.optional then .concat [" [<", metavar.display, ">]"]
  else .concat [" <", metavar.display, ">"]

/-- The long spelling of an option with the label of its value. -/
def optionForm (o : OptionSpec) : Text :=
  .concat ["--", o.longName, (o.metavar.map (valueForm o)).getD []]

/-- The options that listings show. -/
def visible (options : List OptionSpec) : List OptionSpec := options.filter fun o => !o.hidden

def optionLine (look : Look) (o : OptionSpec) : Message :=
  .assemble [
    bare margin,
    .uniform (Text.padRight 4 (shortForm o.shortName)) (look.style "option-name"),
    .uniform (Text.padRight 38 (optionForm o)) (look.style "option-name"),
    labelPiece (look.style "description") o.descr]

/-- One line for each visible option. -/
def optionLines (look : Look) (options : List OptionSpec) : List Message :=
  (visible options).map (optionLine look)

/-- The beginning of every usage line. -/
def usageHead (look : Look) : List StyledText :=
  [.uniform "Usage: " (look.style "usage-label"),
    look.program.piece (look.style "program-name")]

/-- A message with what is given as the end of a usage line: a text with its style, or a styled text
without a second one. -/
def withTail (m : Message) (tail style : Value) : Except Failure Message :=
  match tail, style with
  | .text t, style => .ok (m.appendText t style.asStyle)
  | .styled t, .null => .ok (m.appendPiece t)
  | .styled t, _ => if t.plain = [] then .ok m else .error .styledTwice
  | _, _ => .error .usageTailNotText

/-- The usage line of the top-level page. Its end is a text, a styled text, or a list of one of
these and perhaps its style. -/
def usageLine (look : Look) (tail : Value) : Except Failure Message :=
  let line := Message.assemble (usageHead look ++ [bare " "])
  match tail, tail.items? with
  | .text _, _ | .styled _, _ => withTail line tail .null
  | _, some [text] => withTail line text .null
  | _, some [text, style] => withTail line text style
  | _, _ => .error .usageTailNotText

def commandLine (look : Look) (c : Command) : Message :=
  let long := .concat ["--", Text.padRight 25 c.longName]
  let name := match c.shortName with
    | some _ => Text.padRight 4 (shortForm c.shortName) ++ long
    | none => long
  .assemble [
    bare margin,
    .uniform name (look.style "command-name"),
    labelPiece (look.style "description") c.descr]

/-- One line for each visible command. -/
def commandLines (look : Look) (table : List Command) : List Message :=
  (table.filter fun c => !c.hidden).map (commandLine look)

/-- The pointer to the pages of commands, with the first command of the table as its example. -/
def pointer (look : Look) (table : List Command) : Text :=
  let program := look.program.display
  let sample := (table.head?.map fun c => c.longName).getD []
  .concat ["See '", program, " <command> --help' for more information on a specific command.\n",
    "e.g.\n", margin, program, " --", sample, " --help"]

/-- The pointer to the manual page. -/
def manualPointer : Value → Text
  | .null => "For more information, please refer to manpage."
  | man => .concat ["For more information, please refer to manpage (man ", man.display, ")."]

/-- The top of the top-level page. -/
def banner (look : Look) (title : Value) : List Message :=
  [.ofStyled (title.piece (look.style "title")), .blank]

/-- The top-level page below its banner. -/
def overview (look : Look) (usage : Message) (table : List Command) (man : Value) : List Message :=
  [usage,
    .blank,
    .ofText "The '<device>' must be a block device (e.g. /dev/nvme0n1).",
    .blank,
    .ofText "Available commands:"] ++
  commandLines look table ++
  [.blank,
    .ofStyled (.uniform (pointer look table) (look.style "footer")),
    .ofStyled (.uniform (manualPointer man) (look.style "footer"))]

/-- The description of a command: the long one, unless it is empty, or else the short one. -/
def description (c : Command) : Text :=
  match c.longDescr with
  | some l => if l.isEmpty then short else l.display
  | none => short
where
  /-- The short description; an absent one is empty. -/
  short : Text := (c.descr.map Label.display).getD []

def header (c : Command) : List Message := [.ofText (margin ++ description c), .blank]

/-- The options that a usage line lists: the visible ones that are required. -/
def listedOptions (options : List OptionSpec) : List OptionSpec :=
  (visible options).filter OptionSpec.required

/-- The sign that ends a usage line when some visible option is not required. -/
def moreOptions : Text := " [option...]"

/-- The options of a usage line, each with the label of its value. -/
def usageOptions (options : List OptionSpec) : Text :=
  let forms := (listedOptions options).flatMap fun o => CodePoint.space :: optionForm o
  if (visible options).all OptionSpec.required then forms else forms ++ moreOptions

/-- The page of a command without options, or with options. -/
def commandPage (look : Look) (c : Command) (options : List OptionSpec) : List Message :=
  let name := Text.concat [" --", c.longName]
  let listing := match visible options with
    | [] => []
    | _ => .ofText (.concat ["Options that are valid with ", bracketed c.toSwitch, " are:"]) ::
        optionLines look options
  [.assemble (usageHead look ++ [bare (name ++ usageOptions options)]), .blank] ++
    header c ++ listing

/-- The options of the entries of a namespace, with an empty line between entries. -/
def entryOptions (look : Look) (c : Command) (scope : Namespace) :
    List NamespaceEntry → List Message
  | [] => []
  | entry :: rest =>
      let title := Text.concat ["Options that are valid with ", bracketed c.toSwitch, " ",
        bracketed scope.toSwitch, " ", entry.name, " are:"]
      .ofText title :: optionLines look entry.options ++
        match rest with
        | [] => []
        | _ => .blank :: entryOptions look c scope rest

/-- The page of a command with a namespace. -/
def namespacePage (look : Look) (c : Command) (scope : Namespace) : List Message :=
  let tail := Text.concat [" --", c.longName, " --", scope.longName, " <NAME>"]
  let entryLine (entry : NamespaceEntry) := Message.assemble [
    bare margin,
    .uniform entry.name (look.style "entry-name"),
    bare " - ",
    labelPiece (look.style "description") entry.descr]
  [.assemble (usageHead look ++ [bare tail]), .blank] ++ header c ++
    [.ofText "Valid values of NAME are:"] ++ scope.entries.map entryLine ++ [.blank] ++
    entryOptions look c scope scope.entries

def page (look : Look) (c : Command) : List Message :=
  match c.body with
  | .plain => commandPage look c []
  | .options schema _ => commandPage look c schema
  | .namespaced scope _ => namespacePage look c scope

end Help

namespace App

def showHelp (app : App) : Action Unit := do
  let look ← Action.ofExcept (Help.Look.of app (← Action.host))
  let table := app.table (← Action.session)
  app.reporter.infoAll (Help.banner look app.title)
  let usage ← Action.ofExcept (Help.usageLine look app.info)
  app.reporter.infoAll (Help.overview look usage table app.man)

/-- Shows the page of a command, or has the command's own callback show it. -/
def showCommandHelp (app : App) (c : Command) : Action Unit := do
  match c.help with
  | some callback => discard (Action.call callback (.help app.name c.longName))
  | none =>
      let look ← Action.ofExcept (Help.Look.of app (← Action.host))
      app.reporter.infoAll (Help.page look c)

end App

end CommandDispatch
