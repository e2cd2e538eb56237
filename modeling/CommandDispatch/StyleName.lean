import CommandDispatch.Color

/-! # Names of styles

The name of a style is a row of words: attributes, attributes that are taken back, links, and
colours of the text and of its background. A console reads them in their order and stops at the
first one that it does not know; the name then stands for no style. Only a colour that is unreadable
makes the whole name unreadable.
-/

namespace CommandDispatch

namespace Text

/-- The words of a text between its blanks. -/
def words (t : Text) : List Text := (t.splitOnP CodePoint.isBlank).filter (· ≠ [])

/-- The text with its capitals in lower case, as far as that gives ASCII letters: the sign of the
Kelvin is a capital `k`. -/
def lower (t : Text) : Text := t.map fun c =>
  if 0x41 ≤ c.val ∧ c.val ≤ 0x5A then Fin.ofNat 0x110000 (c.val + 0x20)
  else if c.val = 0x212A then CodePoint.ofChar 'k' else c

end Text

namespace StyleName

def attributes : List Text :=
  ["dim", "d", "bold", "b", "italic", "i", "underline", "u", "blink", "blink2", "reverse", "r",
    "conceal", "c", "strike", "s", "underline2", "uu", "frame", "encircle", "overline", "o"]

/-- What the next word of a name has to be. -/
inductive Expected where
  /-- Anything that may start a part of a name. -/
  | any
  /-- The colour of the background. -/
  | background
  /-- An attribute that is taken back. -/
  | negated
  /-- The target of a link. -/
  | target

/-- Some words of a name, read in their order, come to a colour that is unreadable. -/
def hasUnreadable : Expected → List Text → Bool
  | _, [] => false
  | .any, word :: rest =>
      let key := word.lower
      if key = "on" then hasUnreadable .background rest
      else if key = "not" then hasUnreadable .negated rest
      else if key = "link" then hasUnreadable .target rest
      else if attributes.contains key then hasUnreadable .any rest
      else (Color.read key).spoils (hasUnreadable .any rest)
  | .background, word :: rest => (Color.read word.lower).spoils (hasUnreadable .any rest)
  | .negated, word :: rest => attributes.contains word && hasUnreadable .any rest
  | .target, _ :: rest => hasUnreadable .any rest

/-- The console fails to read a name. -/
def isUnreadable (name : Text) : Bool := hasUnreadable .any name.words

end StyleName

end CommandDispatch
