import CommandDispatch.Fault
import CommandDispatch.Place
import CommandDispatch.Spec.AttributeError
import CommandDispatch.Text.Numeral

/-! # Failures

Every way in which an action of the engine can end without a result: a fault, a failure that a
callback lets through, a missing permission, or a value of the wrong kind.
-/

namespace CommandDispatch

/-- Why an action ended without a result. -/
inductive Failure where
  | fault (f : Fault)
  /-- A callback failed in a way of its own. -/
  | callbackFailed (message : Text)
  | withoutReply
  | unlockDenied
  | faultMessageNotText
  | faultWithoutCode
  | notSurfaceable
  | notExecutable (v : Value)
  | capacityNotPositive
  /-- A callback answered with something other than a number where a number is compared. -/
  | resultNotInteger
  | wordNotText
  | entryNameNotText
  | usageTailNotText
  | styledTwice
  | styleFlawed (flaw : StyleFlaw)
  | stylesNotRecord
  | withoutSchema
  | withoutSelector
  /-- Something lacks the part that was asked for. -/
  | withoutAttribute
  | access (e : AttributeError)
  /-- Something that cannot be walked through was to be walked through. -/
  | notIterable
  | notPair
  | notKey
  | withoutField
  | notComparable
  | notByte
  /-- A size did not fit into 64 bits. -/
  | sizeTooGreat
  | outOfMemory
  /-- A number was to be written the numeral of which is too long. -/
  | numeralTooLong
  | pathNotText
  /-- A text with a surrogate that stands for no byte was to be written as bytes. -/
  | textNotEncodable
  | pathWithNul
  /-- A number below zero was to stand for a stream. -/
  | streamNegative
  | notOpened (obstacle : Obstacle)
  | clockOverflow

/-- The wording of a failure, for those that have one; a fault words itself. -/
def Failure.message : Failure → Option Text
  | callbackFailed message => some message
  | notSurfaceable =>
      some "trigger() argument must have a __trigger__ and __replace__ methods"
  | notExecutable v => some (.concat ["cannot execute ", v.literal])
  | access e => e.message
  | capacityNotPositive => some "command line capacity must be positive"
  | _ => none

/-- A number as it is written, if it can be. -/
def Text.ofNumber (n : Int) : Except Failure Text :=
  if isWritable n then .ok (integer n) else .error .numeralTooLong

namespace Value

/-- The pieces of a value, which must be one that can be walked through. -/
def readPieces (v : Value) : Except Failure (List Value) :=
  match v.pieces? with
  | some pieces => .ok pieces
  | none => .error .notIterable

/-- The words of an invocation. They are asked for by number, so that they cannot be a record. -/
def readWords : Value → Except Failure (List Value)
  | .record _ => .error .withoutField
  | v => v.readPieces

/-- A value that can be written as it is shown: all its numbers must be. -/
def writable (v : Value) : Except Failure Value :=
  if v.numbers.all Text.isWritable then .ok v else .error .numeralTooLong

end Value

/-- A fault as host code creates it: its message, if there is one, must be a text. -/
def Fault.create (kind : FaultKind) (message : Option Value) (options : FaultOptions) :
    Except Failure Fault :=
  match message with
  | none => .ok (ofOptions kind none options)
  | some (.text t) => .ok (ofOptions kind (some t) options)
  | some _ => .error .faultMessageNotText

end CommandDispatch
