import CommandDispatch.Text.Columns

/-! # Outlines

An outline is what a console lays out: a word, or a group of labelled parts between brackets. It is
written on one line as long as there is room. A group without room opens on one line, has each part
on lines of its own, further in, and closes on a last one; its parts are laid out in the same way.
-/

namespace CommandDispatch

/-- A word, or parts with labels between an opening and a closing bracket. A fixed group keeps a
comma behind a single part. -/
inductive Outline where
  | word (t : Text)
  | group (opening closing : Text) (fixed : Bool) (parts : List (Text × Outline))

namespace Outline

/-- How far the parts of a group stand behind its brackets. -/
def step : Nat := 4

mutual

def flat : Outline → Text
  | word t => t
  | group opening closing fixed parts =>
      let comma : Text := if fixed && parts.length = 1 then "," else []
      .concat [opening, Text.joinWith ", " (flatParts parts), comma, closing]

/-- Each of several parts on one line. -/
def flatParts : List (Text × Outline) → List Text
  | [] => []
  | (label, part) :: rest => (label ++ flat part) :: flatParts rest

end

/-- What follows an outline: the text that is written, and the columns that are kept free for it. -/
structure Ending where
  text : Text
  columns : Nat

namespace Ending

/-- Nothing follows the whole. -/
def top : Ending := ⟨[], 0⟩

/-- The ending of a part: a comma, but for the last of several. Room is kept for a comma with a
space even where none is written. -/
def ofPart (alone last : Bool) : Ending :=
  if alone then ⟨",", 1⟩ else if last then ⟨[], 2⟩ else ⟨",", 2⟩

end Ending

/-- The line that a text makes behind its margin. -/
def line (margin : Nat) (t : Text) : Text := List.replicate margin CodePoint.space ++ t

mutual

/-- The lines of a labelled outline behind a margin, on a console with some columns. -/
def lines (columns margin : Nat) (label : Text) (ending : Ending) : Outline → List Text
  | word t => [line margin (.concat [label, t, ending.text])]
  | group opening closing fixed parts =>
      let whole := label ++ flat (group opening closing fixed parts)
      if parts.isEmpty || margin + whole.columns + ending.columns ≤ columns then
        [line margin (whole ++ ending.text)]
      else
        let alone := fixed && parts.length = 1
        line margin (label ++ opening) :: partLines columns (margin + step) alone parts ++
          [line margin (closing ++ ending.text)]

/-- The lines of the parts of a group. -/
def partLines (columns margin : Nat) (alone : Bool) : List (Text × Outline) → List Text
  | [] => []
  | (label, part) :: rest =>
      lines columns margin label (Ending.ofPart alone rest.isEmpty) part ++
        partLines columns margin alone rest

end

/-- An outline as a console with some columns shows it. -/
def layOut (columns : Nat) (o : Outline) : Text :=
  Text.joinWith [CodePoint.newline] (lines columns 0 [] Ending.top o)

/-- Items without labels between parentheses. -/
def sequence (items : List Outline) : Outline := group "(" ")" true (items.map ([], ·))

/-- A title with named parts: words, and then further outlines. -/
def titled (title : Text) (words : List (Text × Text)) (others : List (Text × Outline)) :
    Outline :=
  let parts := words.map (fun field => (field.1, word field.2)) ++ others
  group (.concat [title, "("]) ")" false (parts.map fun part => (.concat [part.1, "="], part.2))

end Outline

end CommandDispatch
