import CommandDispatch.Text.Basic

/-! # Severities

The eight levels of the system log, from the most to the least severe. Warnings and all that is more
severe are errors for the console; the rest is plain output.
-/

namespace CommandDispatch

/-- A severity; the constructors stand in order, the most severe first. -/
inductive Severity where
  | emergency
  | alert
  | critical
  | error
  | warning
  | notice
  | info
  | debug
  deriving DecidableEq

namespace Severity

/-- The number of a level; a lower one is more severe. -/
def level : Severity → Nat
  | emergency => 0
  | alert => 1
  | critical => 2
  | error => 3
  | warning => 4
  | notice => 5
  | info => 6
  | debug => 7

/-- A warning, or more severe. -/
def isError (s : Severity) : Bool := s.level ≤ warning.level

end Severity

end CommandDispatch
