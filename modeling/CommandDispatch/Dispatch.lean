import CommandDispatch.Execution
import CommandDispatch.Resolution

/-! # Dispatch

One invocation from its words to its exit status: it is resolved, its options are extracted, and its
command is run. A fault on the way is created anew, in the way of its class, and then surfaced: in a
shell it is rendered and gives the exit status of a failure, elsewhere it is let through.
-/

namespace CommandDispatch

/-- The exit status of an invocation that was served. -/
def exitSuccess : Int := 0

/-- The exit status of an invocation that ended with a fault. -/
def exitFailure : Int := 1

namespace Fault

def palette : Palette := .ofTexts [
  ("prog-name", "bold"),
  ("error-message", "bold red"),
  ("hint", "italic")]

/-- The error line of a fault: the program label, a colon, and the message. -/
def errorLine (f : Fault) (program : Value) (style : Text → Style) : Message :=
  .assemble [
    program.piece (style "prog-name"),
    .uniform ": " .none,
    .uniform f.shownMessage (style "error-message")]

/-- The line of a hint. -/
def hintLine (hint : Value) (style : Text → Style) : Message :=
  .ofStyled (hint.piece (style "hint"))

/-- What the journal gets for a fault: the message, and the label of the code. A fault without a
code has no such record. -/
def record (f : Fault) (host : Host) : Except Failure Text :=
  match f.code with
  | some code => do
      let label ← (code.label host.faultLabels).writable
      return .concat [f.shownMessage, " [fault ", label.display, "]"]
  | none => .error .faultWithoutCode

/-- Renders a fault in a shell, and lets it through elsewhere. -/
def surface (f : Fault) (app : App) : Action Value := do
  if app.shell then
    let host ← Action.host
    let palette ← Action.ofExcept (host.palette palette)
    let program ← Action.ofExcept (app.program host).writable
    let record ← Action.ofExcept (f.record host)
    app.reporter.error (f.errorLine program palette.styleOf) (some record)
    match f.hintFor program with
    | some hint =>
        let hint ← Action.ofExcept hint.writable
        app.reporter.info (hintLine hint palette.styleOf)
    | none => pure ()
    return .int exitFailure
  else Action.fail (.fault f)

/-- Surfaces a fault, created anew with further options. -/
def trigger (f : Fault) (app : App) (further : FaultOptions) : Action Value := do
  let f ← Action.ofExcept ((← Action.host).rebuild f further)
  f.surface app

end Fault

namespace App

/-- Resolves an invocation and extracts its options. Nothing is left to run when help was shown. -/
def prepare (app : App) (argv : List Value) : Action (Option Selection) := do
  match ← app.resolve argv with
  | .served _ => return none
  | .selected selection =>
      if selection.schema.isSome then
        selection.extract argv
      return some selection

/-- Serves one invocation, and returns its exit status. -/
def dispatch (app : App) (argv : List Value) : Action Value := do
  match ← (app.prepare argv).catchFault with
  | .ok none => return .int exitSuccess
  | .ok (some selection) => app.run selection.command argv
  | .error f => f.trigger app {}

def dispatchProcess (app : App) : Action Value := do
  app.dispatch (← Action.ofExcept (← Action.host).arguments.readPieces)

end App

end CommandDispatch
