import CommandDispatch.App

/-! # Veils

Hiding sets one bit of a flag word and leaves all others. A veil hides whatever can be hidden: it sets
the hidden bit of every command and of every option, and so forgets which of them were hidden. Two
tables have the same veil if they differ in hidden bits only.
-/

namespace CommandDispatch

/-! ## Flag words -/

namespace FlagWord

theorem testBit_or_one_shiftLeft (n k i : Nat) :
    (n ||| 1 <<< k).testBit i = (n.testBit i || decide (i = k)) := by
  rw [Nat.testBit_or, Nat.one_shiftLeft, Nat.testBit_two_pow, decide_eq_decide.2 eq_comm]

/-- With one bit set in both, words are the same if they agree in all others. -/
theorem or_one_shiftLeft_inj {n m k : Nat} :
    m ||| 1 <<< k = n ||| 1 <<< k ↔ ∀ i ≠ k, m.testBit i = n.testBit i := by
  constructor
  · intro heq i hi
    have hbit := congrArg (fun word => word.testBit i) heq
    simpa only [testBit_or_one_shiftLeft, hi, decide_false, Bool.or_false] using hbit
  · intro hbits
    apply Nat.eq_of_testBit_eq
    intro i
    rw [testBit_or_one_shiftLeft, testBit_or_one_shiftLeft]
    by_cases hi : i = k
    · rw [decide_eq_true hi, Bool.or_true, Bool.or_true]
    · rw [hbits i hi]

end FlagWord

namespace OptionFlags

/-- The flags with the bit that leaves an option out of help listings. -/
def veil (flags : OptionFlags) : OptionFlags := ⟨flags.bits ||| 1 <<< 2⟩

/-- Veiled flags are the same if the flags differ in the hidden bit at most. -/
theorem veil_inj {flags flags' : OptionFlags} :
    flags'.veil = flags.veil ↔ ∀ i ≠ 2, flags'.bits.testBit i = flags.bits.testBit i := by
  rw [veil, veil, OptionFlags.mk.injEq, FlagWord.or_one_shiftLeft_inj]

theorem required_veil (flags : OptionFlags) : flags.veil.required = flags.required :=
  (FlagWord.testBit_or_one_shiftLeft flags.bits 2 0).trans (Bool.or_false _)

theorem optional_veil (flags : OptionFlags) : flags.veil.optional = flags.optional :=
  (FlagWord.testBit_or_one_shiftLeft flags.bits 2 1).trans (Bool.or_false _)

end OptionFlags

namespace CommandFlags

/-- Hiding sets one bit, and no other. -/
theorem testBit_bits_hide (flags : CommandFlags) (i : Nat) :
    flags.hide.bits.testBit i = (flags.bits.testBit i || decide (i = 1)) :=
  FlagWord.testBit_or_one_shiftLeft flags.bits 1 i

theorem hide_inj {flags flags' : CommandFlags} :
    flags'.hide = flags.hide ↔ ∀ i ≠ 1, flags'.bits.testBit i = flags.bits.testBit i := by
  rw [hide, hide, CommandFlags.mk.injEq]
  exact @FlagWord.or_one_shiftLeft_inj _ _ 1

@[simp] theorem hide_hide (flags : CommandFlags) : flags.hide.hide = flags.hide := by
  rw [hide, hide, Nat.or_assoc, Nat.or_self]

theorem hidden_hide (flags : CommandFlags) : flags.hide.hidden = true :=
  (flags.testBit_bits_hide 1).trans (Bool.or_true _)

end CommandFlags

/-! ## Veils -/

namespace OptionSpec

/-- The option, left out of help listings. -/
def veil (o : OptionSpec) : OptionSpec := { o with flags := o.flags.veil }

@[simp] theorem required_veil (o : OptionSpec) : o.veil.required = o.required :=
  o.flags.required_veil

@[simp] theorem optional_veil (o : OptionSpec) : o.veil.optional = o.optional :=
  o.flags.optional_veil

@[simp] theorem takesValues_veil (o : OptionSpec) : o.veil.takesValues = o.takesValues := rfl

end OptionSpec

/-- The entry with all of its options left out of help listings. -/
def NamespaceEntry.veil (entry : NamespaceEntry) : NamespaceEntry :=
  { entry with options := entry.options.map OptionSpec.veil }

def Namespace.veil (scope : Namespace) : Namespace :=
  { scope with entries := scope.entries.map NamespaceEntry.veil }

def CommandBody.veil : CommandBody → CommandBody
  | .plain => .plain
  | .options schema parse => .options (schema.map OptionSpec.veil) parse
  | .namespaced scope parse => .namespaced scope.veil parse

/-- The command and all of its options, left out of help listings. -/
def Command.veil (c : Command) : Command := { c with flags := c.flags.hide, body := c.body.veil }

/-- The application with all commands and options left out of help listings. -/
def App.veil (app : App) : App := { app with commands := app.commands.map Command.veil }

namespace Command

@[simp] theorem superuserRequired_veil (c : Command) :
    c.veil.superuserRequired = c.superuserRequired :=
  (c.flags.testBit_bits_hide 0).trans (Bool.or_false _)

theorem hidden_veil (c : Command) : c.veil.hidden = true := c.flags.hidden_hide

theorem hide_hide (c : Command) : c.hide.hide = c.hide := by
  simp [hide]

theorem veil_hide (c : Command) : c.hide.veil = c.veil := by
  simp [hide, veil]

theorem hide_veil (c : Command) : c.veil.hide = c.veil := by
  simp [hide, veil]

end Command

end CommandDispatch
