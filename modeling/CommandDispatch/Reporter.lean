import CommandDispatch.Journal
import CommandDispatch.Severity
import CommandDispatch.Spec.Outline
import CommandDispatch.Text.Settled

/-! # Reporting

A reporter sends messages to the console by severity. Errors go to the error stream and are also
written to the journal, if there is one; everything else goes to the output stream only.
-/

namespace CommandDispatch

def consoleColumns : Nat := 80

/-- Values that are shown part by part. -/
def Value.hasParts : Value → Bool
  | .list _ | .record _ | .spec _ => true
  | _ => false

/-- What a console shows in place of a list that leaves nothing to show. -/
def nothingShown : Text := "<class 'list'>.__repr__ returned empty string"

/-- How a console shows a value that is no text: one with parts is laid out and written to it, and
any other one is a single word. Only a list on one line can leave nothing to show. -/
def Value.laidOut (v : Value) : Text :=
  if v.hasParts then
    match (v.outline.layOut consoleColumns).settled with
    | [] => nothingShown
    | shown => shown
  else v.literal

/-- A message made of a value: a text takes the given style, a styled text keeps its own, and
anything else is shown without a style. -/
def Message.ofValue (style : Style) : Value → Message
  | .text t => ofStyled (.uniform t style)
  | .styled t => ofStyled t
  | v => { plain := v.display, laidOut := some v.laidOut.shown }

/-- A reporter, with or without a journal, and with or without styles. -/
structure Reporter where
  journal : Option Journal
  colorful : Bool

namespace Reporter

/-- Reports a message. `record` is what the journal gets in place of the message's text. -/
def report (r : Reporter) (severity : Severity) (message : Message) (record : Option Text) :
    Action Unit := do
  let message := message.colored r.colorful
  if severity.isError then
    Action.print .error message
    match r.journal with
    | some journal => discard (journal.write (record.getD message.plain))
    | none => pure ()
  else Action.print .output message

def info (r : Reporter) (message : Message) : Action Unit := r.report .info message none

def error (r : Reporter) (message : Message) (record : Option Text) : Action Unit :=
  r.report .error message record

def infoAll (r : Reporter) : List Message → Action Unit
  | [] => pure ()
  | message :: rest => do
      r.info message
      infoAll r rest

end Reporter

end CommandDispatch
