import CommandDispatch.Extraction
import CommandDispatch.Help

/-! # Resolution

The words of an invocation are matched against the command table. The checks come in a fixed order:
there is a selector, it is an option, it selects a command; then the commands are configured; then
a request for help is served; then the user's privilege is checked; and last a namespace and its
entry are looked up.
-/

namespace CommandDispatch

/-- The outcome of resolution: help was shown, of a command or of the whole tool, or a command is
selected. -/
inductive Resolution where
  | served (command : Option Command)
  | selected (selection : Selection)

namespace Namespace

/-- The entry with a name. Names are compared like long names of switches. -/
def find? (scope : Namespace) : Value → Except Failure (Option NamespaceEntry)
  | .text name => .ok (scope.entries.find? fun entry => Switch.sameName name entry.name)
  | .list _ | .collection _ (.sequence _) | .styled _ => .ok none
  | _ => .error .entryNameNotText

end Namespace

namespace Resolution

/-- The fault of an invocation without a command. -/
def missingCommand : Fault := .ofCode .missingCommand "No command given."

/-- The sentence about a word that is no command. -/
def unknownCommand (word : Value) : Text :=
  .concat ["Unrecognized command ", word.display, "."]

/-- The fault of a user without the privilege that a command needs. -/
def insufficientPrivilege : Fault := .ofCode .insufficientPrivilege "Must be run as root."

/-- The fault of a command that lacks the switch of its namespace. -/
def missingFlag : Fault := .ofCode .missingNamespaceFlag "Missing namespace option."

/-- The fault of a command that lacks the name of an entry. -/
def missingName : Fault := .ofCode .missingNamespaceName "Missing namespace name."

/-- The fault of a word that is not the switch of the namespace. -/
def unknownFlag (word : Value) : Fault :=
  .about .unrecognizedNamespaceFlag (.concat ["Unrecognized option ", word.display, "."]) word

/-- The fault of a word that is not the name of an entry. -/
def unknownEntry (word : Value) : Fault :=
  .about .unrecognizedNamespaceEntry
    (.concat ["Unrecognized namespace entry ", word.display, "."]) word

end Resolution

open Resolution

namespace Command

/-- The selection of a command, from the words behind its selector. -/
def select (c : Command) (rest : List Value) : Except Failure Selection :=
  match c.body with
  | .plain => .ok ⟨c, none, none, 2⟩
  | .options schema _ => .ok ⟨c, none, some schema, 2⟩
  | .namespaced scope _ =>
      match rest with
      | [] => .error (.fault missingFlag)
      | [_] => .error (.fault missingName)
      | flag :: name :: _ =>
          if scope.toSwitch.selectedBy flag then do
            match ← scope.find? name with
            | some entry => return ⟨c, some entry, some entry.options, 4⟩
            | none => throw (.fault (unknownEntry name))
          else .error (.fault (unknownFlag flag))

end Command

namespace App

/-- Fails unless the user has the privilege that a command needs. -/
def requirePrivilege (app : App) (c : Command) : Action Unit := do
  if c.superuserRequired then
    unless ← app.isPrivileged do
      Action.fail (.fault insufficientPrivilege)

/-- Resolves an invocation whose selector selects the command at a position. -/
def resolveCommand (app : App) (position : Nat) (c : Command) (selector : Value)
    (rest : List Value) : Action Resolution := do
  app.configure
  let c := shownIn (← Action.session) position c
  if rest.any isHelp then
    unless c.hidden do
      app.showCommandHelp c
    return .served (some c)
  app.requirePrivilege c
  Action.note (.resolved selector c.longName)
  return .selected (← Action.ofExcept (c.select rest))

def resolve (app : App) (argv : List Value) : Action Resolution := do
  match argv with
  | _ :: selector :: rest =>
      if isOption selector then
        match find? app.commands selector with
        | some (position, c) => app.resolveCommand position c selector rest
        | none =>
            if isHelp selector then
              app.showHelp
              return .served none
            Action.fail (.fault (.about .unrecognizedCommand (unknownCommand selector) selector))
      else Action.fail (.fault (.about .unrecognized (unknownCommand selector) selector))
  | _ => Action.fail (.fault missingCommand)

end App

end CommandDispatch
