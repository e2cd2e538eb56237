import CommandDispatch.Text.Blank

/-! # Numerals

Numbers as they are written in base ten, with the digits of any script. There is an end to how long
a numeral can be.
-/

namespace CommandDispatch

namespace CodePoint

/-- The zeros of all scripts; the other nine digits of a script follow its zero. The table is that
of Unicode 14, in ascending order. -/
def zeroDigits : List Nat := [
    0x30, 0x660, 0x6F0, 0x7C0, 0x966, 0x9E6, 0xA66, 0xAE6, 0xB66, 0xBE6, 0xC66, 0xCE6, 0xD66, 0xDE6,
    0xE50, 0xED0, 0xF20, 0x1040, 0x1090, 0x17E0, 0x1810, 0x1946, 0x19D0, 0x1A80, 0x1A90, 0x1B50,
    0x1BB0, 0x1C40, 0x1C50, 0xA620, 0xA8D0, 0xA900, 0xA9D0, 0xA9F0, 0xAA50, 0xABF0, 0xFF10, 0x104A0,
    0x10D30, 0x11066, 0x110F0, 0x11136, 0x111D0, 0x112F0, 0x11450, 0x114D0, 0x11650, 0x116C0,
    0x11730, 0x118E0, 0x11950, 0x11C50, 0x11D50, 0x11DA0, 0x16A60, 0x16AC0, 0x16B50, 0x1D7CE,
    0x1D7D8, 0x1D7E2, 0x1D7EC, 0x1D7F6, 0x1E140, 0x1E2F0, 0x1E950, 0x1FBF0]

/-- The value of a decimal digit. -/
def digit? (c : CodePoint) : Option Nat :=
  (zeroDigits.find? fun first => first ≤ c.val && c.val < first + 10).map (c.val - ·)

/-- The low line that may stand between two digits. -/
def lowLine : CodePoint := ⟨0x5F, by decide⟩

end CodePoint

namespace Text

/-- The greatest number of digits of a numeral. -/
def longestNumeral : Nat := 4300

/-- A number can be written if its numeral is not too long. -/
def isWritable (n : Int) : Bool := (decimal n.natAbs).length ≤ longestNumeral

/-- The number that a text of digits only stands for. -/
def readNatural? (t : Text) : Option Nat := do
  guard (t ≠ [] ∧ t.length ≤ longestNumeral)
  let digits ← t.mapM CodePoint.digit?
  return digits.foldl (fun n digit => 10 * n + digit) 0

/-- The number that a text stands for: digits, perhaps with a sign before them, low lines between
them, and blanks around them. -/
def readInteger? (t : Text) : Option Int := do
  let written := t.strip
  let negative := written.head? = some CodePoint.dash
  let signed := negative || written.head? = some (CodePoint.ofChar '+')
  let groups := (if signed then written.drop 1 else written).splitOn CodePoint.lowLine
  guard (groups.all (· ≠ []))
  let n ← readNatural? groups.flatten
  return if negative then -n else n

end Text

end CommandDispatch
