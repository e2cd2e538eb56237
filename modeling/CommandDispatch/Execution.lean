import CommandDispatch.App
import CommandDispatch.Duration

/-! # Execution

A command is run by calling its handler. Its result is decoded into a diagnostic, unless the
selector asks for help or the version, and the invocation is written to the journal, unless the
command is the version command. The result of the handler is the result of the run.
-/

namespace CommandDispatch

namespace CommandLine

/-- A command line without words; its capacity must be positive. -/
def create (memory : Memory) (capacity : Int) : Except Failure CommandLine :=
  if capacity < 1 then .error .capacityNotPositive else empty <$> memory.size 0 capacity

/-- The line with further words, or nothing if it must grow and cannot. Every word must be a
text. -/
def extendWords (grows : Bool) (line : CommandLine) :
    List Value → Except Failure (Option CommandLine)
  | [] => .ok (some line)
  | .text word :: rest =>
      match line.tryAppend grows word with
      | (true, line) => extendWords grows line rest
      | (false, _) => .ok none
  | _ :: _ => .error .wordNotText

/-- A line with words, or nothing if memory runs out. -/
def ofWords (memory : Memory) (grows : Bool) (capacity : Int) (words : List Value) :
    Except Failure (Option CommandLine) :=
  match create memory capacity with
  | .ok line => line.extendWords grows words
  | .error .outOfMemory => .ok none
  | .error failure => .error failure

end CommandLine

namespace Journal

/-- The message about one invocation; its result must be a number. -/
def auditMessage (line : Text) (result : Value) (elapsed : Int) : Except Failure Text := do
  let duration ← durationText elapsed
  match result.number? with
  | some n =>
      let status ← Text.ofNumber n
      return .concat [line, ". Exit status is ", status, " (",
        if n = 0 then "success" else "failure", "). Command took ", duration, " s."]
  | none => throw .resultNotInteger

/-- Writes the message about one invocation, and tells whether it reached the journal. Without
memory for the command line only the reporter is told, if there is one. -/
def logCommand (j : Journal) (argv : List Value) (result : Value) (elapsed : Int)
    (reporter : Option Reporter) (capacity : Int) : Action Bool := do
  let host ← Action.host
  match ← Action.ofExcept
      (CommandLine.ofWords host.memory (!host.failures.memory) capacity argv) with
  | some line => j.write (← Action.ofExcept (auditMessage line.text result elapsed))
  | none =>
      match reporter with
      | some reporter =>
          let message := Text.concat [j.program, ": Memory allocation failed for logging."]
          reporter.error (.ofText message) none
      | none => pure ()
      return false

end Journal

namespace StatusConfig

/-- Reports the diagnostic for a handler result, if there is anything to say. -/
def report (config : StatusConfig) (reporter : Reporter) (result : Int) : Action Unit := do
  match ← Action.ofExcept (config.decode result) with
  | some diagnostic => reporter.report diagnostic.severity (.ofText diagnostic.message) none
  | none => pure ()

end StatusConfig

namespace App

/-- The milliseconds between the start and the end of a run, rounded down. -/
def elapsed (host : Host) : Int := (host.finished - host.started) / 1000000

/-- Reports the diagnostic for the result of a handler, which must be a number. -/
def reportResult (app : App) (result : Value) : Action Unit :=
  match result.number? with
  | some n => app.status.report app.reporter n
  | none => Action.fail .resultNotInteger

/-- What follows the handler of a command: its result is reported, and the invocation is written to
the journal. -/
def conclude (app : App) (c : Command) (argv : List Value) (result : Value) (cursor : LogCursor) :
    Action Unit := do
  match argv with
  | _ :: selector :: _ =>
      unless isHelp selector || isVersion selector do
        app.reportResult result
      unless c.isVersion do
        discard (app.journal.logCommand argv result (elapsed (← Action.host)) (some app.reporter)
          CommandLine.defaultCapacity)
      match cursor.path with
      | some path =>
          let added := cursor.read (← Action.session).files
          Action.note (.logged added.length path c.longName)
      | none => pure ()
  | _ => Action.fail .withoutSelector

def placeCursor (app : App) : Action LogCursor := do
  Action.ofExcept (LogCursor.enter {} app.syslog (← Action.session).files)

/-- Runs a command, and returns the result of its handler. -/
def run (app : App) (c : Command) (argv : List Value) : Action Value := do
  let cursor ← app.placeCursor
  let result ← Action.call c.handler .handler
  app.conclude c argv result cursor
  return result

end App

namespace Value

/-- The command that a value is; nothing else can be executed. -/
def executable : Value → Except Failure Command
  | .spec (.command c) => .ok c
  | v => .error (.notExecutable v)

def execute (v : Value) : Action Value := do
  let c ← Action.ofExcept v.executable
  Action.call c.handler .handler

/-- Runs a value with words, neither of which need be of the right kind. The words are read once the
handler has been called. -/
def runWith (app : App) (v argv : Value) : Action Value := do
  let cursor ← app.placeCursor
  let c ← Action.ofExcept v.executable
  let result ← Action.call c.handler .handler
  app.conclude c (← Action.ofExcept argv.readWords) result cursor
  return result

/-- Running a command with a list of words, given as values, is running the command. -/
theorem runWith_command (app : App) (c : Command) (argv : List Value) :
    runWith app (.spec (.command c)) (.list argv) = app.run c argv := rfl

end Value

end CommandDispatch
