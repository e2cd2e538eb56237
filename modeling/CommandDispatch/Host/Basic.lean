import CommandDispatch.Location
import CommandDispatch.Memory
import CommandDispatch.Palette

/-! # The host

What the engine finds around it and cannot change: the callbacks and what they answer, the host's
labels, styles and classes of faults, the clock, the memory, and which operations on the journal
fail.
-/

namespace CommandDispatch

/-- What a callback is asked. -/
inductive Request where
  | configure
  | privilege
  | help (app command : Text)
  | option (name : Text) (values : List Value)
  | entryOption (entry name : Text) (values : List Value)
  | handler
  | inspection

/-- The arguments that a request passes to the callback. -/
def Request.arguments : Request → List Value
  | configure => []
  | privilege => []
  | help app command => [.text app, .text command]
  | option name values => [.text name, .list values]
  | entryOption entry name values => [.text entry, .text name, .list values]
  | handler => []
  | inspection => []

/-- What a callback does: it may add bytes to the file at a path, and then it answers or fails. -/
structure Reply where
  appended : Option (Text × Bytes) := none
  outcome : Except Failure Value

/-- Which operations fail. Memory is needed only to grow a command line. -/
structure Failures where
  opening : Bool := false
  lock : Bool := false
  unlock : Bool := false
  write : Bool := false
  time : Bool := false
  memory : Bool := false
  deriving DecidableEq

/-- The host of an engine. A callback's answer may depend on all the requests it had before. A class
of faults may have a way of its own to create them. -/
structure Host where
  answer : Callback → (earlier : List Request) → Request → Reply
  construct : FaultClass → Option Text → FaultOptions → Except Failure Fault :=
    fun faults message options => .ok (.ofOptions (.custom faults) message options)
  program : Option Value := none
  faultLabels : List (Int × Value) := []
  styles : Value := .record []
  superuser : Bool := true
  arguments : Value := .list []
  now : Int := 0
  started : Int := 0
  finished : Int := 0
  memory : Memory := .ample
  failures : Failures := {}

namespace Host

/-- A fault created anew, with its own message and options and further ones, in the way of its
class. -/
def rebuild (host : Host) (f : Fault) (further : FaultOptions) : Except Failure Fault :=
  let options := f.options.merge further
  match f.kind with
  | .custom faults => host.construct faults f.message options
  | kind => .ok (.ofOptions kind f.message options)

/-- Faults of the engine's own kinds are created anew as they were. -/
theorem rebuild_eq_self (host : Host) {f : Fault} (hkind : ∀ faults, f.kind ≠ .custom faults) :
    host.rebuild f {} = .ok f := by
  unfold rebuild
  dsimp only
  split
  next faults hcustom => exact absurd hcustom (hkind faults)
  next => rw [f.ofOptions_options]

/-- A palette in which the host's own styles come first; they must be a record. -/
def palette (host : Host) (defaults : Palette) : Except Failure Palette :=
  match host.styles with
  | .record styles => .ok (defaults ++ Palette.ofFields styles)
  | _ => .error .stylesNotRecord

end Host

end CommandDispatch
