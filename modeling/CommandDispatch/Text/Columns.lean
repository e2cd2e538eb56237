import CommandDispatch.Text.Width

/-! # Columns

How many columns of a console a text takes. That is the sum over its code points, but for two of
them: a joiner makes the code point behind it take none, and a selector makes some pictograms before
it a column wider.
-/

namespace CommandDispatch

namespace Text

/-- The columns of what is left of a text. `joined` says that a joiner stands right before it, and
`base` is the latest code point that took columns and has met no selector yet. -/
def columnsBehind : (joined : Bool) → (base : Option CodePoint) → Text → Nat
  | _, _, [] => 0
  | true, base, _ :: rest => columnsBehind false base rest
  | false, base, c :: rest =>
      if c = CodePoint.joiner then columnsBehind true base rest
      else if c = CodePoint.selector then
        (if base.any CodePoint.isWidenable then 1 else 0) + columnsBehind false none rest
      else if c.columns = 0 then columnsBehind false base rest
      else c.columns + columnsBehind false (some c) rest

/-- The number of columns of a text on one line. -/
def columns (t : Text) : Nat := columnsBehind false none t

end Text

end CommandDispatch
