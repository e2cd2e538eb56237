import CommandDispatch.Text.Basic

/-! # Blank code points

Blanks are the separators and the control characters that count as white space. Stripping removes
them at both ends of a text.
-/

namespace CommandDispatch

/-- White space: the ASCII separators and controls, and the separators of Unicode. A zero-width
space is none. -/
def CodePoint.isBlank : CodePoint → Bool :=
  CodePoint.isWithin
    [(0x09, 0x0D), (0x1C, 0x20), (0x85, 0x85), (0xA0, 0xA0), (0x1680, 0x1680), (0x2000, 0x200A),
      (0x2028, 0x2029), (0x202F, 0x202F), (0x205F, 0x205F), (0x3000, 0x3000)]

namespace Text

/-- The text without its leading blanks. -/
def stripLeft (t : Text) : Text := t.dropWhile CodePoint.isBlank

/-- The text without blanks at either end. -/
def strip (t : Text) : Text := (stripLeft (stripLeft t).reverse).reverse

end Text

end CommandDispatch
