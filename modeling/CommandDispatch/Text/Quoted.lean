import CommandDispatch.Text.Printable

/-! # Quoted texts

Diagnostics show a text between quotes, so that its ends and its unprintable code points can be
seen. The single quote is used unless the text holds one and holds no double quote.
-/

namespace CommandDispatch

namespace Text

def singleQuote : CodePoint := ⟨0x27, by decide⟩

def doubleQuote : CodePoint := ⟨0x22, by decide⟩

/-- The backslash, which opens every escape. -/
def backslash : CodePoint := ⟨0x5C, by decide⟩

/-- The quote around a text: the double quote exactly when the text holds a single quote and no
double quote. -/
def quoteFor (t : Text) : CodePoint :=
  if t.contains singleQuote && !t.contains doubleQuote then doubleQuote else singleQuote

/-- A code point inside quotes. The backslash and the quote in use are escaped, the common controls
have short escapes, and other unprintable code points are written by number, in two, four or eight
hexadecimal digits. -/
def escaped (quote c : CodePoint) : Text :=
  if c = quote ∨ c = backslash then [backslash, c]
  else if c = CodePoint.newline then ofString "\\n"
  else if c = CodePoint.tab then ofString "\\t"
  else if c.val = 0x0D then ofString "\\r"
  else if c.isPrintable then [c]
  else if c.val < 0x100 then ofString "\\x" ++ hexadecimal 2 c.val
  else if c.val < 0x10000 then ofString "\\u" ++ hexadecimal 4 c.val
  else ofString "\\U" ++ hexadecimal 8 c.val

/-- The text between quotes. -/
def quoted (t : Text) : Text :=
  let quote := quoteFor t
  quote :: t.flatMap (escaped quote) ++ [quote]

end Text

end CommandDispatch
