import CommandDispatch.LogCursor
import CommandDispatch.Reporter
import CommandDispatch.Spec.Declaration
import CommandDispatch.Status.Diagnostic
import CommandDispatch.Token

/-! # Applications

An application bundles a table of commands with the metadata and the settings of one tool. Its
commands are configured once: each configuration callback may hide its command, and nothing shows a
hidden command again.
-/

namespace CommandDispatch

/-- How an application finds out whether its user is privileged: by the rights of the process, or by
asking a callback. -/
inductive PrivilegeProbe where
  | process
  | callback (c : Callback)
  deriving DecidableEq

/-- An application. In a shell it renders faults; elsewhere it lets them through. -/
structure App where
  name : Text
  commands : List Command
  title : Value
  info : Value
  man : Value
  journal : Journal
  syslog : List Value
  status : StatusConfig
  privileged : PrivilegeProbe
  shell : Bool
  colorful : Bool

/-- The arguments from which an application is declared. All but the path of the journal may be left
out. -/
structure AppDeclaration where
  name : Value := .null
  commands : Value := .null
  title : Value := .null
  info : Value := .text "<command> [option...]"
  man : Value := .null
  journal : Value
  syslog : Value := .list []
  status : Option StatusConfig := none
  privileged : Option Value := none
  shell : Bool := true
  colorful : Bool := true

namespace AppDeclaration

def fieldNames : List Text :=
  ["name", "commands", "title", "info", "man", "journal", "syslog", "status", "privileged", "shell",
    "colorful"]

/-- Refuses the first name that no argument has. -/
def only (names : List Text) : Except DeclarationError Unit :=
  match names.find? fun name => !fieldNames.contains name with
  | some name => .error (.unknownField name)
  | none => .ok ()

/-- Reads the name of an application: a text that is not blank. -/
def readName : Value → Except DeclarationError Text
  | .text t => if t.strip = [] then .error .appNameEmpty else .ok t.strip
  | _ => .error .appNameEmpty

def readCommandItems : List Value → Except DeclarationError (List Command)
  | [] => .ok []
  | .spec (.command c) :: rest => (c :: ·) <$> readCommandItems rest
  | _ :: _ => .error .appCommandsMixed

/-- Reads the command table: at least one command. -/
def readCommands (v : Value) : Except DeclarationError (List Command) :=
  match v.pieces? with
  | some [] => .error .appWithoutCommands
  | some items => readCommandItems items
  | none => .error .notIterable

def readProbe : Option Value → Except DeclarationError PrivilegeProbe
  | none => .ok .process
  | some v => match v.callback? with
    | some c => .ok (.callback c)
    | none => .error .appProbeNotCallable

def readPaths (v : Value) : Except DeclarationError (List Value) :=
  match v.pieces? with
  | some paths => .ok paths
  | none => .error .notIterable

end AppDeclaration

namespace App

/-- Declares an application. The title and the label of diagnostics follow the name when they are
not given. -/
def declare (d : AppDeclaration) : Except DeclarationError App := do
  let name ← AppDeclaration.readName d.name
  let commands ← AppDeclaration.readCommands d.commands
  let privileged ← AppDeclaration.readProbe d.privileged
  let syslog ← AppDeclaration.readPaths d.syslog
  return {
    name, commands
    title := match d.title with
      | .null => .text name
      | title => title
    info := d.info
    man := d.man
    journal := ⟨d.journal, name⟩
    syslog
    status := d.status.getD { program := name }
    privileged
    shell := d.shell
    colorful := d.colorful }

def literal (app : App) : Text :=
  .concat ["app(name=", app.name.quoted, ", commands=",
    sequenceLiteral (app.commands.map fun c => c.longName.quoted), ")"]

def reporter (app : App) : Reporter := ⟨some app.journal, app.colorful⟩

/-- The program label in messages: the host's own, or the name of the application. -/
def program (app : App) (host : Host) : Value := host.program.getD (.text app.name)

/-- A command of the table as a session shows it. -/
def shownIn (session : Session) (position : Nat) (c : Command) : Command :=
  if session.hidden.contains position then c.hide else c

/-- The command table as a session shows it. -/
def table (app : App) (session : Session) : List Command :=
  app.commands.mapIdx (shownIn session)

/-- The first command that a word selects, with its position. -/
def find? (commands : List Command) (word : Value) : Option (Nat × Command) :=
  (commands.zipIdx.find? fun entry => entry.1.toSwitch.selectedBy word).map fun entry =>
    (entry.2, entry.1)

def hideAt (position : Nat) : Action Unit :=
  Action.update fun session => { session with hidden := position :: session.hidden }

/-- Configures commands one after the other, the first of which stands at `position`. A command is
hidden when its callback answers with a negative number. -/
def configureFrom : (position : Nat) → List Command → Action Unit
  | _, [] => pure ()
  | position, c :: rest => do
      match c.configure with
      | some callback =>
          let answer ← Action.call callback .configure
          match answer.number? with
          | some n => if n < 0 then hideAt position
          | none => Action.fail .resultNotInteger
      | none => pure ()
      configureFrom (position + 1) rest

/-- Configures the commands, unless that was begun before. -/
def configure (app : App) : Action Unit := do
  let session ← Action.session
  if session.configured then return
  Action.update fun session => { session with configured := true }
  configureFrom 0 app.commands

def isPrivileged (app : App) : Action Bool := do
  match app.privileged with
  | .process => return (← Action.host).superuser
  | .callback c => return (← Action.call c .privilege).isTrue

end App

end CommandDispatch
