import CommandDispatch.CommandLine
import CommandDispatch.Failure

/-! # Memory

How large a buffer can be: the number of its bytes must fit into 64 bits, and there is an end to
memory, which differs from machine to machine.
-/

namespace CommandDispatch

/-- The memory of a machine: how many bytes one buffer can have. The greatest number of 64 bits is
out of reach, and there always is room for a command line of the usual capacity. -/
structure Memory where
  available : Nat := 9223372036854775806
  available_lt : available < 9223372036854775807 := by decide
  capacity_le : CommandLine.defaultCapacity ≤ available := by decide

namespace Memory

/-- As much memory as there can be. -/
def ample : Memory := {}

/-- What a buffer that never changes takes beside its bytes. -/
def fixedOverhead : Int := 33

/-- The size of a buffer of a given number of bytes, which takes some more beside them. A negative
number is cut to zero. -/
def size (memory : Memory) (overhead n : Int) : Except Failure Nat :=
  if n < -9223372036854775808 ∨ 9223372036854775807 < n + overhead then .error .sizeTooGreat
  else if memory.available < n then .error .outOfMemory
  else .ok n.toNat

end Memory

end CommandDispatch
