import CommandDispatch.Failure

/-! # Durations

A duration in milliseconds is written as seconds with two decimals, rounded down. The seconds must
be a number that can be written.
-/

namespace CommandDispatch

/-- A number of milliseconds as seconds and hundredths. Both parts are rounded toward the past, so a
negative duration has negative seconds and counts hundredths upward from them. -/
def durationText (elapsed : Int) : Except Failure Text := do
  let seconds ← Text.ofNumber (elapsed / 1000)
  return .concat [seconds, ".", Text.twoDigits (elapsed % 1000 / 10).toNat]

end CommandDispatch
