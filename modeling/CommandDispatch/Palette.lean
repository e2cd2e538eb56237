import CommandDispatch.Failure

/-! # Palettes

A palette gives styles to keys. Of several styles for one key the last counts, so that one palette
overrides another when it comes behind it. A key without a style has the empty style.
-/

namespace CommandDispatch

abbrev Palette := List (Value × Value)

namespace Palette

/-- A palette whose keys and styles are texts. -/
def ofTexts (entries : List (Text × Text)) : Palette :=
  entries.map fun entry => (.text entry.1, .text entry.2)

/-- A palette with the fields of a record. -/
def ofFields (fields : List (Text × Value)) : Palette :=
  fields.map fun field => (.text field.1, field.2)

/-- Reads a key with its style from a value of two items. -/
def readEntry (v : Value) : Except Failure (Value × Value) :=
  match v.pieces? with
  | some [key, style] => if key.isKey then .ok (key, style) else .error .notKey
  | some _ => .error .notPair
  | none => .error .notIterable

/-- Reads a palette: a record, or anything that gives pairs. -/
def read : Value → Except Failure Palette
  | .record fields => .ok (ofFields fields)
  | v => do (← v.readPieces).mapM readEntry

def style (palette : Palette) (key : Value) : Value :=
  ((palette.reverse.find? fun entry => entry.1.sameKey key).map (·.2)).getD (.text [])

/-- Looks a key up; only values that never change can be keys. -/
def look (palette : Palette) (key : Value) : Except Failure Value :=
  if key.isKey then .ok (palette.style key) else .error .notKey

/-- The style that a palette gives to a piece of a message. -/
def styleOf (palette : Palette) (key : Text) : Style := (palette.style (.text key)).asStyle

end Palette

end CommandDispatch
