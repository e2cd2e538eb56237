import CommandDispatch.Failure
import CommandDispatch.Severity
import CommandDispatch.Status.Hardware

/-! # Diagnostics for handler results

A handler returns an integer. A diagnostic tells what it means, in one of two vocabularies: the
storage protocol, where negative results are errors of the operating system, small ones have names,
and others are hardware completion status words when the driver reported one; or the key management
protocol, which knows a failure and a connection. A result has no diagnostic if the driver error
cannot be looked up, or if the number that is to be told cannot be written.
-/

namespace CommandDispatch

/-- Which vocabulary a decoder uses. -/
inductive DiagnosticMode where
  | standard
  | kmip
  deriving DecidableEq

/-- What a decoder works from: its vocabulary, the last error of the device driver (zero for none),
whether that error can be looked up, and the program label in front of messages of the system and
the driver. -/
structure StatusConfig where
  mode : DiagnosticMode := .standard
  driverError : Int := 0
  errorIsKey : Bool := true
  program : Text := "sedcli"
  deriving DecidableEq

/-- A message about a handler result. -/
structure Diagnostic where
  severity : Severity
  message : Text
  deriving DecidableEq

namespace Diagnostic

/-- The greatest status code that may have a name. -/
def lastStatus : Int := 0x3F

/-- The names of the status codes of the storage protocol. -/
def statusNames : List (Int × Text) := [
  (0x00, "SUCCESS"),
  (0x01, "NOT_AUTHORIZED"),
  (0x02, "OBSOLETE"),
  (0x03, "SP_BUSY"),
  (0x04, "SP_FAILED"),
  (0x05, "SP_DISABLED"),
  (0x06, "SP_FROZEN"),
  (0x07, "NO_SESSIONS_AVAILABLE"),
  (0x08, "UNIQUENESS_CONFLICT"),
  (0x09, "INSUFFICIENT_SPACE"),
  (0x0A, "INSUFFICIENT_ROWS"),
  (0x0B, "OBSOLETE"),
  (0x0C, "INVALID PARAMETER"),
  (0x0D, "OBSOLETE"),
  (0x0E, "OBSOLETE"),
  (0x0F, "TPER_MALFUNCTION"),
  (0x10, "TRANSACTION_FAILURE"),
  (0x11, "RESPONSE_OVERFLOW"),
  (0x12, "AUTHORITY_LOCKED_OUT"),
  (0x3F, "FAIL")]

/-- The name of a status code, if it has one. -/
def statusName? (code : Int) : Option Text :=
  if code < 0 ∨ lastStatus < code then none else statusNames.lookup code

/-- The driver errors that hide the result: an interrupted call and a failed transfer. -/
def driverErrorName? (error : Int) : Option Text :=
  if error = 4 then some "Interrupted system call"
  else if error = 5 then some "I/O error"
  else none

/-- The errors of the operating system that have a wording of their own. -/
def systemErrorName? (result : Int) : Option Text :=
  if result = -22 then some "Invalid parameter."
  else if result = -19 then some "Couldn't determine device state."
  else if result = -12 then some "No memory."
  else none

/-- Two hexadecimal digits behind `0x`. -/
def hexByte (n : Int) : Text := .concat ["0x", Text.hexadecimal 2 n.toNat]

/-- The message for a hardware completion status word. -/
def hardwareMessage (program : Text) (result : Int) : Text :=
  let status := HardwareStatus.ofWord result
  .concat [program, ": NVMe error: ", Text.integer result,
    "\nSC: ", Text.integer status.statusCode,
    " | SCT: ", Text.integer status.statusCodeType,
    " | CRD: ", Text.integer status.retryDelay,
    " | M: ", Text.integer status.more,
    " | DNR: ", Text.integer status.doNotRetry]

/-- The diagnostic in the vocabulary of the storage protocol. The driver error is looked up for
results that are no errors of the operating system. -/
def standard (config : StatusConfig) (result : Int) : Except Failure Diagnostic :=
  if result < 0 then
    .ok ⟨.error, .concat [config.program, ": ", (systemErrorName? result).getD "Unknown error."]⟩
  else if !config.errorIsKey then .error .notKey
  else match driverErrorName? config.driverError with
    | some name =>
        .ok ⟨.error, .concat [config.program, ": IOCTL error: ", hexByte config.driverError, " ",
          name, "."]⟩
    | none =>
        match statusName? result with
        | some name =>
            .ok ⟨if result = 0 then .info else .error,
              .concat ["status: ", hexByte result, " ", name]⟩
        | none =>
            if result ≤ 0xFFFF ∧ config.driverError ≠ 0 then
              .ok ⟨.error, hardwareMessage config.program result⟩
            else do
              let number ← Text.ofNumber result
              return ⟨.error, .concat ["status: Unknown status: ", number]⟩

/-- The diagnostic in the vocabulary of the key management protocol; most results need none. -/
def kmip? (config : StatusConfig) (result : Int) : Option Diagnostic :=
  let say (message : Text) := some ⟨.error, .concat [config.program, "-kmip: ", message]⟩
  if result < 0 then say (if result = -1 then "Failure." else "Unknown error.")
  else if result = 1 then say "Successful connection to the KMIP server."
  else none

end Diagnostic

/-- The diagnostic for a handler result, if there is anything to say. -/
def StatusConfig.decode (config : StatusConfig) (result : Int) :
    Except Failure (Option Diagnostic) :=
  match config.mode with
  | .standard => some <$> Diagnostic.standard config result
  | .kmip => .ok (Diagnostic.kmip? config result)

end CommandDispatch
