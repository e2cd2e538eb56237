import CommandDispatch.Setting

/-! # Faults

A fault is an invocation that cannot be served, in one sentence for the user. Each kind has a stable
number, grouped by domain: routing, namespaces, options, and what callbacks report. Behind the
sentence stands a hint, by default a pointer to the help page.
-/

namespace CommandDispatch

/-- The stable codes of faults. -/
inductive FaultCode where
  | missingCommand
  | unrecognized
  | unrecognizedCommand
  | insufficientPrivilege
  | missingNamespaceFlag
  | missingNamespaceName
  | unrecognizedNamespaceFlag
  | unrecognizedNamespaceEntry
  | missingRequiredOption
  | optionRepeated
  | invalidTokenFormat
  | unrecognizedOption
  | invalidArgumentCount
  | optionHandlerFailed
  | internalError
  deriving DecidableEq

namespace FaultCode

def all : List FaultCode :=
  [missingCommand, unrecognized, unrecognizedCommand, insufficientPrivilege, missingNamespaceFlag,
    missingNamespaceName, unrecognizedNamespaceFlag, unrecognizedNamespaceEntry,
    missingRequiredOption, optionRepeated, invalidTokenFormat, unrecognizedOption,
    invalidArgumentCount, optionHandlerFailed, internalError]

/-- The number of a code; its hundreds tell the domain. -/
def number : FaultCode → Int
  | missingCommand => 11101
  | unrecognized => 11102
  | unrecognizedCommand => 11103
  | insufficientPrivilege => 11104
  | missingNamespaceFlag => 11201
  | missingNamespaceName => 11202
  | unrecognizedNamespaceFlag => 11203
  | unrecognizedNamespaceEntry => 11204
  | missingRequiredOption => 11301
  | optionRepeated => 11302
  | invalidTokenFormat => 11303
  | unrecognizedOption => 11304
  | invalidArgumentCount => 11305
  | optionHandlerFailed => 11401
  | internalError => 11402

/-- The label of a code: the host's own, or else its number. -/
def label (labels : List (Int × Value)) (code : FaultCode) : Value :=
  (labels.lookup code.number).getD (.int code.number)

end FaultCode

/-- A class of faults that host code defines: its name, and the code that its faults carry unless
they are given another one. -/
structure FaultClass where
  name : Text
  code : Option FaultCode := none
  deriving DecidableEq

/-- The kinds of faults: the general one, one for each code, and those of the host. -/
inductive FaultKind where
  | general
  | of (code : FaultCode)
  | custom (faults : FaultClass)
  deriving DecidableEq

/-- The code that faults of a kind carry unless they are given another one. -/
def FaultKind.code? : FaultKind → Option FaultCode
  | general => none
  | of code => some code
  | custom faults => faults.code

/-- What stands behind the sentence of a fault: the pointer to the help page, nothing, or a value of
its own, which normally is a text. -/
inductive Hint where
  | pointer
  | nothing
  | given (v : Value)

/-- A fault. Faults of host code may lack a message or a code. -/
structure Fault where
  kind : FaultKind
  message : Option Text
  code : Option FaultCode
  token : Option Value := none
  hint : Hint := .pointer

namespace Fault

/-- What is shown for a message or a code that was not given. -/
def unset : Text := Setting.unset.literal

def ofCode (code : FaultCode) (message : Text) : Fault :=
  ⟨.of code, some message, some code, none, .pointer⟩

def about (code : FaultCode) (message : Text) (word : Value) : Fault :=
  { ofCode code message with token := some word }

def shownMessage (f : Fault) : Text := f.message.getD unset

/-- The pointer to the help page of a program. -/
def helpPointer (program : Value) : Text :=
  .concat ["Try \x60", program.display, " --help' for more information."]

/-- The hint for a program label, if there is one. -/
def hintFor (f : Fault) (program : Value) : Option Value :=
  match f.hint with
  | .pointer => some (.text (helpPointer program))
  | .nothing => none
  | .given v => some v

end Fault

/-- What a fault is created with beside its message. A code may be given as unset. -/
structure FaultOptions where
  code : Option (Option FaultCode) := none
  token : Option Value := none
  hint : Option Hint := none

/-- The options, with those that further ones give in their place. -/
def FaultOptions.merge (options further : FaultOptions) : FaultOptions where
  code := further.code.or options.code
  token := further.token.or options.token
  hint := further.hint.or options.hint

namespace Fault

/-- A fault of a kind, created from its message and its options. -/
def ofOptions (kind : FaultKind) (message : Option Text) (options : FaultOptions) : Fault where
  kind := kind
  message := message
  code := options.code.getD kind.code?
  token := options.token
  hint := options.hint.getD .pointer

/-- The options of a fault. -/
def options (f : Fault) : FaultOptions := ⟨some f.code, f.token, some f.hint⟩

/-- From its message and its options a fault is created as it was. -/
theorem ofOptions_options (f : Fault) : ofOptions f.kind f.message (f.options.merge {}) = f := rfl

end Fault

end CommandDispatch
