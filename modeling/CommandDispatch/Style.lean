import CommandDispatch.StyleName
import CommandDispatch.Text.Quoted

/-! # Styles

A style is a name that the console looks up. The empty name is no style. Hosts may hand over other
things in the place of a name: some count as no style, and with the others nothing can be printed,
nor with a name that cannot be read. Everything that was given is shown as it was given.
-/

namespace CommandDispatch

/-- Why the console cannot use what was given as a style. -/
inductive StyleFlaw where
  /-- It is no name. -/
  | noName
  /-- It can change, so that it cannot even be looked up. -/
  | changeable
  /-- It is a name that cannot be read. -/
  | unreadable
  deriving DecidableEq

/-- What was given as a style. Anything but a name carries how messages and diagnostics show it. -/
inductive Style where
  | named (name : Text)
  | vacant (shown literal : Text)
  | flawed (flaw : StyleFlaw) (shown literal : Text)
  deriving DecidableEq

namespace Style

def none : Style := named []

def shown : Style → Text
  | named name => name
  | vacant shown _ => shown
  | flawed _ shown _ => shown

def literal : Style → Text
  | named name => name.quoted
  | vacant _ literal => literal
  | flawed _ _ literal => literal

/-- A style that styles nothing. -/
def isNone : Style → Bool
  | named name => name.isEmpty
  | vacant .. => true
  | flawed .. => false

/-- Why the console cannot use a style, if it cannot. -/
def flaw? : Style → Option StyleFlaw
  | named name => if StyleName.isUnreadable name then some .unreadable else .none
  | vacant .. => .none
  | flawed flaw .. => some flaw

end Style

end CommandDispatch
