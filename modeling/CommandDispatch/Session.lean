import CommandDispatch.Host.Basic

/-! # Sessions

What the engine changes while it runs: which commands it has hidden, the files, and the record of
what it printed, called and noted. Records only grow.
-/

namespace CommandDispatch

/-- The two streams of the console. -/
inductive Stream where
  | output
  | error
  deriving DecidableEq

structure Printed where
  stream : Stream
  message : Message
  deriving DecidableEq

structure Call where
  callback : Callback
  request : Request

inductive Note where
  | resolved (selector : Value) (command : Text)
  | receives (option : Text) (values : List Value)
  | logged (count : Nat) (path : Value) (command : Text)

def Note.text : Note → Text
  | resolved selector command =>
      .concat ["resolved ", selector.literal, " to command --", command]
  | receives option values =>
      .concat ["option --", option, " receives ", sequenceLiteral (Value.literals values)]
  | logged count path command =>
      .concat [Text.decimal count, " bytes appended to ", path.display, " while running --",
        command]

/-- The state of an engine between two actions. `hidden` holds the table positions of the commands
that their configuration has hidden. -/
structure Session where
  configured : Bool := false
  hidden : List Nat := []
  files : FileStore := {}
  printed : List Printed := []
  calls : List Call := []
  notes : List Note := []

namespace Session

/-- The requests that a callback had so far. -/
def requestsTo (s : Session) (c : Callback) : List Request :=
  (s.calls.filter fun call => call.callback = c).map (·.request)

/-- What a printed message puts on the console: nothing, if the console could not print it. -/
def Printed.text (p : Printed) : Text :=
  if p.message.flaw?.isNone then p.message.rendered else []

/-- The characters that a list of printed messages put on a stream. -/
def streamText (stream : Stream) (printed : List Printed) : Text :=
  (printed.filter fun p => p.stream = stream).flatMap Printed.text

end Session

end CommandDispatch
