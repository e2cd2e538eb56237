import CommandDispatch.Text.Basic

/-! # Flag words

The behaviour bits of options and commands. A flag word may carry bits that have no name; they are
kept and shown by number. A negative number stands for the complement of the bits it leaves out.
-/

namespace CommandDispatch

namespace FlagWord

def bitLength (n : Nat) : Nat := if n = 0 then 0 else n.log2 + 1

/-- The bits that an integer stands for, where `all` is the mask of the named bits. A negative
integer counts down from the power of two above the named bits, or, if it reaches below zero from
there, from the least power of two that is greater than its own size. -/
def ofInt (all : Nat) : Int → Nat
  | .ofNat n => n
  | .negSucc n => (if n ≤ all then all + 1 else 1 <<< bitLength (n + 1)) - (n + 1)

/-- The names of the bits that are set, in ascending order; `names` begins with that of bit zero. -/
def setNames (names : List Text) (bits : Nat) : List Text :=
  (names.zipIdx.filter fun entry => bits.testBit entry.2).map (·.1)

/-- How a diagnostic shows a flag word: the names of its bits, the rest by number, and the whole
number. -/
def literal (title : Text) (names : List Text) (bits : Nat) : Text :=
  let known := setNames names bits
  let unknown := bits >>> names.length <<< names.length
  let parts := if unknown = 0 then known else known ++ [Text.decimal unknown]
  if known = [] then .concat ["<", title, ": ", Text.decimal bits, ">"]
  else .concat ["<", title, ".", Text.joinWith "|" parts, ": ", Text.decimal bits, ">"]

end FlagWord

/-- Behaviour bits of an option. -/
structure OptionFlags where
  bits : Nat
  deriving DecidableEq

namespace OptionFlags

def ofInt (n : Int) : OptionFlags := ⟨FlagWord.ofInt 7 n⟩

/-- The option must appear at least once. -/
def required (flags : OptionFlags) : Bool := flags.bits.testBit 0

/-- The value of the option may be left out. -/
def optional (flags : OptionFlags) : Bool := flags.bits.testBit 1

/-- The option is left out of help listings. -/
def hidden (flags : OptionFlags) : Bool := flags.bits.testBit 2

def literal (flags : OptionFlags) : Text :=
  FlagWord.literal "OptionFlag" ["REQUIRED", "OPTIONAL", "HIDDEN"] flags.bits

end OptionFlags

/-- Behaviour bits of a command. -/
structure CommandFlags where
  bits : Nat
  deriving DecidableEq

namespace CommandFlags

def ofInt (n : Int) : CommandFlags := ⟨FlagWord.ofInt 3 n⟩

/-- The command may be run by a privileged user only. -/
def superuserRequired (flags : CommandFlags) : Bool := flags.bits.testBit 0

/-- The command is left out of help listings. -/
def hidden (flags : CommandFlags) : Bool := flags.bits.testBit 1

/-- The flags with the bit that leaves the command out of help listings. -/
def hide (flags : CommandFlags) : CommandFlags := ⟨flags.bits ||| 2⟩

/-- The flag word of an integer, with the bit that leaves a command out of help listings. -/
def ofHidden (n : Int) : CommandFlags := ofInt (if n / 2 % 2 = 1 then n else n + 2)

def literal (flags : CommandFlags) : Text :=
  FlagWord.literal "CommandFlag" ["SU_REQUIRED", "HIDDEN"] flags.bits

end CommandFlags

end CommandDispatch
