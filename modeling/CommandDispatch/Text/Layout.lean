import CommandDispatch.Text.Columns

/-! # Texts on the console

A shown text loses the control characters that would move the cursor or ring the bell, and its tabs
become spaces up to the next tab stop.
-/

namespace CommandDispatch

/-- Bell, backspace, vertical tab, form feed and carriage return are never shown. -/
def CodePoint.isDropped (c : CodePoint) : Bool :=
  [0x07, 0x08, 0x0B, 0x0C, 0x0D].contains c.val

namespace Text

/-- The text without the control characters that are never shown. -/
def shown (t : Text) : Text := t.filter fun c => !c.isDropped

/-- The distance between tab stops. -/
def tabWidth : Nat := 8

/-- The first tab stop that is not before a column. -/
def tabStop (column : Nat) : Nat := (column + tabWidth - 1) / tabWidth * tabWidth

/-- The pieces of a line, of which the first starts at a column and every other one at a tab stop. A
tab is written as a space, which takes no column behind a joiner, and as the spaces from there to
the next tab stop. -/
def alignPieces : (column : Nat) → List Text → Text
  | _, [] => []
  | _, [piece] => piece
  | column, piece :: rest =>
      let ended := piece ++ [CodePoint.space]
      let reached := column + ended.columns
      let stop := tabStop reached
      .concat [ended, List.replicate (stop - reached) CodePoint.space, alignPieces stop rest]

/-- The text with each tab replaced by spaces, at least one, up to the next tab stop of its line. -/
def expandTabs (t : Text) : Text :=
  joinWith [CodePoint.newline]
    ((t.splitOn CodePoint.newline).map fun line => alignPieces 0 (line.splitOn CodePoint.tab))

end Text

end CommandDispatch
