import CommandDispatch.Spec.Frozen
import CommandDispatch.Spec.AttributeError

/-! # Held values

What a record of a spec holds under a name. The flags that a spec was declared with stay flags and
are shown by the names of their bits; everything else is a value, whatever was put there.
-/

namespace CommandDispatch

/-- What a record of a spec holds under a name. -/
inductive Holding where
  | optionFlags (flags : OptionFlags)
  | commandFlags (flags : CommandFlags)
  | value (v : Value)

namespace Holding

/-- What is held, as a value. Flags are numbers. -/
def toValue : Holding → Value
  | optionFlags flags => .int flags.bits
  | commandFlags flags => .int flags.bits
  | value v => v

/-- What is held, as a field that is read back. -/
def frozen : Holding → FrozenField
  | value v => .ofStored v
  | flags => .single flags.toValue

/-- How a diagnostic shows a field that holds this. -/
def literal : Holding → Text
  | optionFlags flags => flags.literal
  | commandFlags flags => flags.literal
  | held => held.frozen.literal

/-- How a message shows a field that holds this. -/
def display : Holding → Text
  | value (.list items) => sequenceLiteral (Value.literals items)
  | held => held.toValue.display

/-- Whether a flag is among what is held. Flags have bits, a list has items, and neither the keys of
a record nor the characters of a styled text are flags; anything else has no members. -/
def hasFlag (bit : Nat) : Holding → Except AttributeError Bool
  | optionFlags flags => .ok (flags.bits.testBit bit)
  | commandFlags flags => .ok (flags.bits.testBit bit)
  | value (.list items) => .ok (items.any fun v => v.number? = some ↑(1 <<< bit : Nat))
  | value (.record _) | value (.styled _) => .ok false
  | value _ => .error .unfit

/-- The flags of a command that are held, with the one that hides it. A number becomes flags, and a
truth value a number only. -/
def hidden : Holding → Except AttributeError Holding
  | commandFlags flags => .ok (commandFlags flags.hide)
  | value (.int n) => .ok (commandFlags (.ofHidden n))
  | value (.bool b) => .ok (value (.int (if b then 3 else 2)))
  | _ => .error .unfit

end Holding

end CommandDispatch
